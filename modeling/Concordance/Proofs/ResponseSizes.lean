import Concordance.Proofs.Shortening

/-!
# The size that an answer gives of itself

An answer that is cut down tells how long it is. It was measured with the size before it in this place,
so what it tells is right if and only if both sizes have the same number of digits; and it tells of
dropped results also when there were none (`truthful_iff`).
-/

namespace Concordance.ToolResult

open Json

variable {limit : Nat} {result : ToolResult} {text : String} {output answer : Json} {results : List Json}
  {summary : List (String × Json)}

/-- A successful response whose text is read as a value with results and a summary. -/
structure Response (result : ToolResult) (text : String) (output : Json) (results : List Json)
    (summary : List (String × Json)) : Prop where
  success : result.isError = false
  first : result.content.head? = some text
  read : read? text = some output
  results : output.get? "results" = some (.array results)
  summary : output.get? "summary" = some (.fields summary)

/-- What the summary of an answer tells is so: results were dropped if it says that some were, and the
answer takes the bytes that it gives. -/
structure Truthful (results : List Json) (answer : Json) : Prop where
  truncated : (answer.get? "summary").bind (·.get? "truncated") = some (.bool true) →
    ∃ kept, answer.get? "results" = some (.array kept) ∧ kept.length < results.length
  responseBytes : ∃ n : UInt64,
    (answer.get? "summary").bind (·.get? "responseBytes") = some (.number (.natural n)) ∧
      n.toNat = answer.render.utf8ByteSize

/-- A response that is changed was too long. -/
theorem Response.tooLong (h : Response result text output results summary)
    (hchanged : truncate limit result ≠ result) : TooLong limit result text output results := by
  have hpasses : ¬PassesThrough limit result := fun hpasses =>
    hchanged (truncate_of_passesThrough hpasses)
  obtain ⟨_, _, _, hlong⟩ := exists_tooLong hpasses
  obtain ⟨rfl, rfl, rfl⟩ := hlong.unique h.first h.read h.results
  exact hlong

/-! ### What is told -/

section CutDown

variable {kept bytes : Nat}

theorem CutDown.get?_truncated (h : CutDown output results kept bytes answer)
    (hsummary : output.get? "summary" = some (.fields summary)) :
    (answer.get? "summary").bind (·.get? "truncated") = some (.bool true) := by
  obtain ⟨-, fields, hfields, hnotes⟩ := h.in_summary summary hsummary
  rw [hfields]
  exact hnotes.truncated

theorem CutDown.get?_responseBytes (h : CutDown output results kept bytes answer)
    (hsummary : output.get? "summary" = some (.fields summary)) :
    (answer.get? "summary").bind (·.get? "responseBytes") = some (.ofNat bytes) := by
  obtain ⟨-, fields, hfields, hnotes⟩ := h.in_summary summary hsummary
  rw [hfields]
  exact hnotes.responseBytes

/-- Such an answer is truthful if a result was dropped and the size is right. -/
theorem CutDown.truthful_iff_size (h : CutDown output results kept bytes answer)
    (hsummary : output.get? "summary" = some (.fields summary)) (hfits : bytes < 2 ^ 64) :
    Truthful results answer ↔ kept < results.length ∧ bytes = answer.size := by
  have hbytes : (UInt64.ofNat bytes).toNat = bytes := UInt64.toNat_ofNat_of_lt' hfits
  constructor
  · rintro ⟨htruncated, n, hn, hsize⟩
    obtain ⟨items, hitems, hlength⟩ := htruncated (h.get?_truncated hsummary)
    rw [h.results, Option.some.injEq, Json.array.injEq] at hitems
    rw [h.get?_responseBytes hsummary, Option.some.injEq, ofNat, Json.number.injEq,
      Number.natural.injEq] at hn
    rw [← hitems, List.length_take] at hlength
    rw [← hn, hbytes, utf8ByteSize_render] at hsize
    exact ⟨by omega, hsize⟩
  · rintro ⟨hkept, hsize⟩
    refine ⟨fun _ => ⟨_, h.results, ?_⟩, _, h.get?_responseBytes hsummary, ?_⟩
    · rw [List.length_take]
      omega
    · rw [hbytes, utf8ByteSize_render, hsize]

end CutDown

/-! ### When it is right -/

/-- The last size takes the place of the one before it, which the answer was measured with. -/
theorem size_noted_measured (hsummary : output.get? "summary" = some (.fields summary))
    {total start dropped : Nat} (hfits : Fits total (measured output total start))
    (hdropped : dropped + 1 ≤ total) :
    (noted output (total - (dropped + 1)) (measured output total start (dropped + 1))).size +
        digitCount (measured output total start dropped) =
      measured output total start (dropped + 1) +
        digitCount (measured output total start (dropped + 1)) := by
  have hsizes := size_noted_of_summary hsummary (total - (dropped + 1))
    (measured output total start (dropped + 1)) (measured output total start dropped)
  rw [size_ofNat (hfits dropped (Nat.le_of_succ_le hdropped)),
    size_ofNat (hfits (dropped + 1) hdropped)] at hsizes
  have hmeasured : (noted output (total - (dropped + 1)) (measured output total start dropped)).size =
      measured output total start (dropped + 1) := (utf8ByteSize_render _).symm
  omega

/-- The summary of a response that was changed is truthful if and only if the loop dropped results, and
measured sizes of the same number of digits before and after it dropped the last of them. -/
theorem truthful_iff (h : Response result text output results summary)
    (hchanged : truncate limit result ≠ result)
    (hfits : Fits results.length (measured output results.length text.utf8ByteSize)) :
    ∃ answer last, truncate limit result = ofJson answer ∧
      Stops limit results.length (measured output results.length text.utf8ByteSize) last ∧
      (Truthful results answer ↔ last ≠ 0 ∧
        digitCount (measured output results.length text.utf8ByteSize (last - 1)) =
          digitCount (measured output results.length text.utf8ByteSize last)) := by
  obtain ⟨last, hstops, htruncate⟩ := (h.tooLong hchanged).truncate_eq
  refine ⟨_, last, htruncate, hstops, ?_⟩
  have hle : last ≤ results.length := hstops.le_total
  rw [(cutDown_noted h.read h.results _ _).truthful_iff_size h.summary (hfits last hle)]
  cases last with
  | zero =>
    -- the loop does not end at once unless there is nothing to drop
    refine iff_of_false ?_ ?_
    · rintro ⟨hkept, -⟩
      exact Nat.lt_irrefl _ hkept
    · rintro ⟨hzero, -⟩
      exact hzero rfl
  | succ dropped =>
    have hsize := size_noted_measured h.summary hfits hle
    rw [Nat.add_sub_cancel]
    constructor
    · rintro ⟨-, hbytes⟩
      exact ⟨Nat.succ_ne_zero dropped, by omega⟩
    · rintro ⟨-, hdigits⟩
      exact ⟨by omega, by omega⟩

theorem response_crowded : Response (ofJson crowded) crowded.render crowded crowdedResults [] where
  success := rfl
  first := rfl
  read := read?_crowded
  results := rfl
  summary := rfl

/-- The loop leaves one result below a limit of 120 bytes. -/
theorem stops_one_crowded : Stops 120 2 (measured crowded 2 133) 1 := by
  obtain ⟨hzero, hone, -⟩ := measured_crowded
  refine ⟨by decide, .inr (by omega), fun dropped hdropped => ?_⟩
  obtain rfl : dropped = 0 := by omega
  omega

/-- The loop leaves no result below a limit of 80 bytes. -/
theorem stops_two_crowded : Stops 80 2 (measured crowded 2 133) 2 := by
  obtain ⟨hzero, hone, -⟩ := measured_crowded
  refine ⟨by decide, .inl rfl, fun dropped hdropped => ?_⟩
  obtain rfl | rfl : dropped = 0 ∨ dropped = 1 := by omega
  · omega
  · omega

/-- How far the crowded answer is cut down for any limit below its size. -/
theorem truncate_crowded {limit last : Nat} (hlimit : limit ≠ 0) (hlong : limit < 133)
    (hstops : Stops limit 2 (measured crowded 2 133) last) :
    truncate limit (ofJson crowded) = ofJson (noted crowded (2 - last) (measured crowded 2 133 last)) := by
  obtain ⟨last', hstops', htruncate⟩ := (tooLong_crowded hlimit hlong).truncate_eq
  rw [utf8ByteSize_crowded] at hstops' htruncate
  rw [htruncate, hstops'.eq hstops]
  rfl

theorem truncate_one_crowded : truncate 120 (ofJson crowded) = ofJson (noted crowded 1 108) := by
  rw [truncate_crowded (by decide) (by decide) stops_one_crowded, measured_crowded.2.1]

theorem truncate_two_crowded : truncate 80 (ofJson crowded) = ofJson (noted crowded 0 76) := by
  rw [truncate_crowded (by decide) (by decide) stops_two_crowded, measured_crowded.2.2]

theorem utf8ByteSize_noted_crowded : (noted crowded 1 108).render.utf8ByteSize = 108 ∧
    (noted crowded 0 76).render.utf8ByteSize = 75 := by
  decide +kernel

theorem render_eq_of_ofJson_eq {a b : Json} (h : ofJson a = ofJson b) : a.render = b.render := by
  rw [ofJson, ofJson, success, success, ToolResult.mk.injEq, List.cons.injEq] at h
  exact h.1.1

/-- Both limits change the answer, as it has another length afterwards. -/
theorem changed_crowded : truncate 120 (ofJson crowded) ≠ ofJson crowded ∧
    truncate 80 (ofJson crowded) ≠ ofJson crowded := by
  obtain ⟨hone, htwo⟩ := utf8ByteSize_noted_crowded
  rw [truncate_one_crowded, truncate_two_crowded]
  constructor
  · intro heq
    rw [render_eq_of_ofJson_eq heq, utf8ByteSize_crowded] at hone
    exact absurd hone (by decide)
  · intro heq
    rw [render_eq_of_ofJson_eq heq, utf8ByteSize_crowded] at htwo
    exact absurd htwo (by decide)

/-- An answer of 108 bytes that gives this size. -/
theorem truthful_iff_crowded : truncate 120 (ofJson crowded) ≠ ofJson crowded ∧
    Fits 2 (measured crowded 2 crowded.render.utf8ByteSize) ∧
    ∃ answer, truncate 120 (ofJson crowded) = ofJson answer ∧ Truthful crowdedResults answer := by
  refine ⟨changed_crowded.1, fits_crowded, ?_⟩
  obtain ⟨answer, last, htruncate, hstops, htruthful⟩ :=
    truthful_iff response_crowded changed_crowded.1 fits_crowded
  rw [utf8ByteSize_crowded] at hstops htruthful
  obtain rfl : last = 1 := hstops.eq stops_one_crowded
  exact ⟨answer, htruncate, htruthful.2 ⟨by decide, by decide +kernel⟩⟩

/-- What is written gives its size as one number. -/
theorem eq_ofNat_of_render_eq {a b : Json} (h : a.render = b.render) {number : Json.Number} {bytes : Nat}
    (ha : (a.get? "summary").bind (·.get? "responseBytes") = some (.number number))
    (hb : (b.get? "summary").bind (·.get? "responseBytes") = some (.ofNat bytes)) :
    (Json.number number).tree = (ofNat bytes).tree := by
  obtain ⟨summary, hsummary, hnumber⟩ := Option.bind_eq_some_iff.1 ha
  obtain ⟨summary', hsummary', hbytes⟩ := Option.bind_eq_some_iff.1 hb
  have hsummaries := map_tree_get?_eq (tree_eq_of_render_eq h) "summary"
  rw [hsummary, hsummary', Option.map_some, Option.map_some, Option.some.injEq] at hsummaries
  have hnumbers := map_tree_get?_eq hsummaries "responseBytes"
  rw [hnumber, hbytes, Option.map_some, Option.map_some, Option.some.injEq] at hnumbers
  exact hnumbers

/-- An answer of 75 bytes gives its size as 76: it was measured with three digits in the place of these
two. -/
theorem not_always_truthful :
    ¬∀ (limit : Nat) (result : ToolResult) (text : String) (output : Json) (results : List Json)
      (summary : List (String × Json)), Response result text output results summary →
        truncate limit result ≠ result →
        ∃ answer, truncate limit result = ofJson answer ∧ Truthful results answer := by
  intro h
  obtain ⟨answer, htruncate, -, n, hn, hsize⟩ := h 80 _ _ _ _ _ response_crowded changed_crowded.2
  rw [truncate_two_crowded] at htruncate
  have hrender : answer.render = (noted crowded 0 76).render := (render_eq_of_ofJson_eq htruncate).symm
  have htree : (ofNat n.toNat).tree = (ofNat 76).tree := by
    rw [ofNat, UInt64.ofNat_toNat]
    exact eq_ofNat_of_render_eq hrender hn rfl
  have hvalue : some (ofNat n.toNat) = some (ofNat 76) := by
    rw [← value?_ofNat 0, htree, value?_ofNat]
  rw [ofNat, UInt64.ofNat_toNat, ofNat] at hvalue
  cases hvalue
  rw [hrender, utf8ByteSize_noted_crowded.2] at hsize
  exact absurd hsize (by decide)

end Concordance.ToolResult
