import Concordance.Proofs.JsonSizes
import Concordance.Proofs.ToolResults

/-!
# Dropping results until an answer is short enough

An answer that is too long loses its last result, gets a note of it and of the size it had, and is measured
again. Later notes take the place of earlier ones (`noted_noted`), so it ends as the answer that it was at
first, with the results that are left and one note (`TooLong.truncate_eq`). The number in the note changes
once more after the last measurement; it gets smaller then, and does not make the answer longer
(`size_noted_mono`). So what is given is a prefix of the results, and short enough if a result is left
(`truncate_keeps_results`).
-/

namespace Concordance.ToolResult

open Json

variable {key other : String} {value old output : Json}

/-! ### Changing fields -/

theorem setField_setField (key : String) (value old output : Json) :
    setField key value (setField key old output) = setField key value output := by
  cases output with
  | fields pairs => exact congrArg Json.fields (insertField_insertField key value old pairs)
  | _ => rfl

theorem setField_comm (h : key ≠ other) (value old output : Json) :
    setField key value (setField other old output) = setField other old (setField key value output) := by
  cases output with
  | fields pairs => exact congrArg Json.fields (insertField_comm h value old pairs)
  | _ => rfl

def Tidy (output : Json) : Prop :=
  ∀ pairs, output = .fields pairs → Ordered pairs

theorem Tidy.setField (h : Tidy output) (key : String) (value : Json) :
    Tidy (setField key value output) := by
  rintro pairs hpairs
  cases output with
  | fields fields =>
    cases hpairs
    exact ordered_insertField key value (h fields rfl)
  | _ => cases hpairs

theorem setField_eq_self (h : Tidy output) (hget : output.get? key = some value) :
    ToolResult.setField key value output = output := by
  cases output with
  | fields pairs => exact congrArg Json.fields (insertField_eq_self (h pairs rfl) hget)
  | _ => cases hget

/-! ### An answer with a part of its results -/

/-- An answer with its first results only, and the note that it took so many bytes. -/
def noted (output : Json) (kept bytes : Nat) : Json :=
  mark kept bytes (keepResults kept output)

def notedSummary (kept bytes : Nat) (summary : List (String × Json)) : Json :=
  setField "responseBytes" (.ofNat bytes)
    (setField "returned" (.ofNat kept) (setField "truncated" (.bool true) (.fields summary)))

theorem mark_of_summary {summary : List (String × Json)}
    (h : output.get? "summary" = some (.fields summary)) (kept bytes : Nat) :
    mark kept bytes output = setField "summary" (notedSummary kept bytes summary) output := by
  rw [mark, h]
  rfl

theorem mark_of_no_summary (h : ∀ summary, output.get? "summary" ≠ some (.fields summary))
    (kept bytes : Nat) : mark kept bytes output = setField "truncated" (.bool true) output := by
  rw [mark]
  split
  · next summary hsummary => exact absurd hsummary (h summary)
  · rfl

theorem summary_cases (output : Json) :
    (∃ summary, output.get? "summary" = some (.fields summary)) ∨
      ∀ summary, output.get? "summary" ≠ some (.fields summary) := by
  by_cases h : ∃ summary, output.get? "summary" = some (.fields summary)
  · exact .inl h
  · exact .inr (not_exists.1 h)

/-- The last note in a summary counts. -/
theorem notedSummary_notedSummary (kept bytes kept' bytes' : Nat) {summary noted : List (String × Json)}
    (h : notedSummary kept' bytes' summary = .fields noted) :
    notedSummary kept bytes noted = notedSummary kept bytes summary := by
  have htruncated : "truncated" ≠ "returned" ∧ "truncated" ≠ "responseBytes" := by decide
  have hreturned : "returned" ≠ "responseBytes" := by decide
  rw [notedSummary, ← h, notedSummary, notedSummary, setField_comm htruncated.2,
    setField_comm htruncated.1, setField_setField, setField_comm hreturned, setField_setField,
    setField_setField]

/-- The last note counts. -/
theorem mark_mark (kept bytes kept' bytes' : Nat) (output : Json) :
    mark kept bytes (mark kept' bytes' output) = mark kept bytes output := by
  rcases summary_cases output with ⟨summary, hsummary⟩ | hnone
  · have hmark := mark_of_summary hsummary kept' bytes'
    have hget : (mark kept' bytes' output).get? "summary" = some (notedSummary kept' bytes' summary) := by
      rw [hmark]
      exact get?_setField_self hsummary _ _
    rw [mark_of_summary hget, hmark, setField_setField,
      notedSummary_notedSummary kept bytes kept' bytes' rfl, mark_of_summary hsummary]
  · rw [mark_of_no_summary hnone, mark_of_no_summary, mark_of_no_summary hnone, setField_setField]
    intro summary
    rw [get?_setField_of_ne (by decide)]
    exact hnone summary

theorem get?_mark_results (kept bytes : Nat) (output : Json) :
    (mark kept bytes output).get? "results" = output.get? "results" := by
  rw [mark]
  split
  · exact get?_setField_of_ne (by decide) _ _
  · exact get?_setField_of_ne (by decide) _ _

theorem get?_keepResults_of_ne (h : key ≠ "results") (kept : Nat) (output : Json) :
    (keepResults kept output).get? key = output.get? key := by
  rw [keepResults]
  split
  · exact get?_setField_of_ne h _ _
  · rfl

theorem keepResults_of_results {results : List Json} (h : output.get? "results" = some (.array results))
    (kept : Nat) : keepResults kept output = setField "results" (.array (results.take kept)) output := by
  rw [keepResults, h]

theorem mark_setField_results (kept bytes : Nat) (value output : Json) :
    mark kept bytes (setField "results" value output) =
      setField "results" value (mark kept bytes output) := by
  rw [mark, get?_setField_of_ne (by decide), mark]
  split
  · exact setField_comm (by decide) _ _ _
  · exact setField_comm (by decide) _ _ _

/-- It does not matter whether an answer loses results or gets its note first. -/
theorem keepResults_mark (count kept bytes : Nat) (output : Json) :
    keepResults count (mark kept bytes output) = mark kept bytes (keepResults count output) := by
  rw [keepResults, get?_mark_results, keepResults]
  split
  · exact (mark_setField_results _ _ _ _).symm
  · rfl

/-- Results that are dropped in two goes are dropped as in one. -/
theorem keepResults_keepResults {count kept : Nat} (h : count ≤ kept) (output : Json) :
    keepResults count (keepResults kept output) = keepResults count output := by
  by_cases hresults : ∃ results, output.get? "results" = some (.array results)
  · obtain ⟨results, hresults⟩ := hresults
    rw [keepResults_of_results hresults, keepResults_of_results (get?_setField_self hresults _ _),
      keepResults_of_results hresults, setField_setField, List.take_take, Nat.min_eq_left h]
  · have hsame : keepResults kept output = output := by
      rw [keepResults]
      split
      · next results h => exact absurd ⟨results, h⟩ hresults
      · rfl
    rw [hsame]

/-- An answer with all of its results is the answer. -/
theorem keepResults_length (h : Tidy output) {results : List Json}
    (hresults : output.get? "results" = some (.array results)) :
    keepResults results.length output = output := by
  rw [keepResults_of_results hresults, List.take_length, setField_eq_self h hresults]

theorem mark_noted (kept bytes bytes' : Nat) (output : Json) :
    mark kept bytes (noted output kept bytes') = noted output kept bytes :=
  mark_mark kept bytes kept bytes' (keepResults kept output)

/-- What was noted before results are dropped leaves no trace. -/
theorem noted_noted {count kept : Nat} (h : count ≤ kept) (bytes bytes' : Nat) (output : Json) :
    noted (noted output kept bytes') count bytes = noted output count bytes := by
  rw [noted, noted, keepResults_mark, mark_mark, keepResults_keepResults h, noted]

/-! ### The loop -/

/-- How many bytes an answer takes, of `start` bytes, when its last results are dropped one by one. Each
size is noted in the answer that is measured next. -/
def measured (output : Json) (total start : Nat) : (dropped : Nat) → Nat
  | 0 => start
  | dropped + 1 =>
    (noted output (total - (dropped + 1)) (measured output total start dropped)).render.utf8ByteSize

/-- The loop ends when it has dropped so many results: nothing is left to drop, or the size is the first
that is short enough. -/
structure Stops (limit total : Nat) (sizes : Nat → Nat) (last : Nat) : Prop where
  le_total : last ≤ total
  short_enough : last = total ∨ sizes last ≤ limit
  too_long : ∀ dropped < last, limit < sizes dropped

/-- There is one place where the loop ends. -/
theorem Stops.eq {limit total : Nat} {sizes : Nat → Nat} {last last' : Nat}
    (h : Stops limit total sizes last) (h' : Stops limit total sizes last') : last = last' := by
  have hle {m n : Nat} (hm : Stops limit total sizes m) (hn : Stops limit total sizes n) : m ≤ n := by
    by_contra hlt
    have hlong : limit < sizes n := hm.too_long n (Nat.lt_of_not_le hlt)
    have htotal : m ≤ total := hm.le_total
    rcases hn.short_enough with heq | hshort
    · omega
    · omega
  exact Nat.le_antisymm (hle h h') (hle h' h)

/-- A value with so many results can stand for the given one: it makes no difference to later notes. -/
structure StandsFor (output : Json) (kept : Nat) (current : Json) : Prop where
  mark : ∀ bytes, mark kept bytes current = noted output kept bytes
  noted : ∀ count ≤ kept, ∀ bytes, noted current count bytes = noted output count bytes

theorem standsFor_self (h : Tidy output) {results : List Json}
    (hresults : output.get? "results" = some (.array results)) :
    StandsFor output results.length output where
  mark bytes := by rw [ToolResult.noted, keepResults_length h hresults]
  noted _ _ _ := rfl

theorem standsFor_noted (output : Json) (kept bytes : Nat) :
    StandsFor output kept (noted output kept bytes) where
  mark bytes' := mark_noted kept bytes' bytes output
  noted _ hcount bytes' := noted_noted hcount bytes' bytes output

/-- From a value that stands for the given one, after some results were dropped, the loop comes to its
end. -/
theorem exists_stops {limit total start dropped kept : Nat} {current : Json}
    (htotal : dropped + kept = total) (hcurrent : StandsFor output kept current)
    (hlong : ∀ earlier < dropped, limit < measured output total start earlier) :
    ∃ last, Stops limit total (measured output total start) last ∧
      let short := shorten limit current (measured output total start dropped) kept
      mark short.kept short.bytes short.output =
        noted output (total - last) (measured output total start last) := by
  -- along the results that are left: each pass begins with a value that stands for the given one
  induction kept generalizing dropped current with
  | zero =>
    have hkept : total - dropped = 0 := by omega
    refine ⟨dropped, ⟨by omega, .inl (by omega), hlong⟩, ?_⟩
    rw [hkept, shorten]
    exact hcurrent.mark _
  | succ kept ih =>
    have hkept : total - dropped = kept + 1 := by omega
    have hnext : total - (dropped + 1) = kept := by omega
    rw [shorten]
    split
    · next hshort =>
      refine ⟨dropped, ⟨by omega, .inr hshort, hlong⟩, ?_⟩
      rw [hkept]
      exact hcurrent.mark _
    · next htooLong =>
      have hshorter :
          ToolResult.mark kept (measured output total start dropped) (keepResults kept current) =
            noted output kept (measured output total start dropped) :=
        hcurrent.noted kept (Nat.le_succ kept) _
      have hsize : (noted output kept (measured output total start dropped)).render.utf8ByteSize =
          measured output total start (dropped + 1) := by
        rw [measured, hnext]
      dsimp only
      rw [hshorter, hsize]
      refine ih (by omega) (standsFor_noted output kept _) fun earlier hearlier => ?_
      rcases Nat.lt_succ_iff_lt_or_eq.1 hearlier with hlt | rfl
      · exact hlong earlier hlt
      · exact Nat.lt_of_not_le htooLong

/-! ### Which answers are cut down -/

/-- What is given as it is: there is no limit, it tells of an error or of nothing, or its first text is
short enough, is not JSON or has no results. -/
inductive PassesThrough (limit : Nat) (result : ToolResult) : Prop
  | unlimited (h : limit = 0)
  | error (h : result.isError = true)
  | empty (h : result.content = [])
  | short (text : String) (more : List String) (h : result.content = text :: more)
      (hshort : text.utf8ByteSize ≤ limit)
  | unread (text : String) (more : List String) (h : result.content = text :: more)
      (hread : read? text = none)
  | noResults (text : String) (more : List String) (output : Json) (h : result.content = text :: more)
      (hread : read? text = some output)
      (hresults : ∀ results, output.get? "results" ≠ some (.array results))

/-- What is cut down: a success whose first text is too long and is read as a value with results. -/
structure TooLong (limit : Nat) (result : ToolResult) (text : String) (output : Json)
    (results : List Json) : Prop where
  limited : limit ≠ 0
  success : result.isError = false
  first : result.content.head? = some text
  long : limit < text.utf8ByteSize
  read : read? text = some output
  results : output.get? "results" = some (.array results)

variable {limit : Nat} {result : ToolResult} {text : String} {results : List Json}

theorem resultsIn?_of_results (hread : read? text = some output)
    (hresults : output.get? "results" = some (.array results)) :
    resultsIn? text = some (output, results) := by
  rw [resultsIn?, hread, Option.bind_eq_bind, Option.bind_some, hresults]
  rfl

theorem resultsIn?_eq_none (h : ∀ output, read? text = some output →
    ∀ results, output.get? "results" ≠ some (.array results)) : resultsIn? text = none := by
  rw [Option.eq_none_iff_forall_not_mem]
  rintro ⟨output, results⟩ hmem
  obtain ⟨hread, hresults⟩ := resultsIn?_eq_some hmem
  exact h output hread results hresults

theorem truncate_of_resultsIn?_eq_none {more : List String} (h : result.content = text :: more)
    (hnone : resultsIn? text = none) : truncate limit result = result := by
  rw [truncate, h]
  dsimp only
  rw [hnone, ite_self, ite_self]

/-- Each of the cases in which an answer passes through leaves it as it is. -/
theorem truncate_of_passesThrough (h : PassesThrough limit result) : truncate limit result = result := by
  cases h with
  | unlimited h => rw [truncate, h, decide_eq_true rfl, Bool.true_or, if_pos rfl]
  | error h => rw [truncate, h, Bool.or_true, if_pos rfl]
  | empty h => rw [truncate, h, ite_self]
  | short text more h hshort =>
    rw [truncate, h]
    dsimp only
    rw [if_pos hshort, ite_self]
  | unread text more h hread =>
    refine truncate_of_resultsIn?_eq_none h (resultsIn?_eq_none fun output houtput => ?_)
    cases hread.symm.trans houtput
  | noResults text more output h hread hresults =>
    refine truncate_of_resultsIn?_eq_none h (resultsIn?_eq_none fun output' houtput => ?_)
    cases hread.symm.trans houtput
    exact hresults

/-- What does not pass through is cut down. -/
theorem exists_tooLong (h : ¬PassesThrough limit result) :
    ∃ text output results, TooLong limit result text output results := by
  have hlimit : limit ≠ 0 := fun hzero => h (.unlimited hzero)
  have hsuccess : result.isError = false := Bool.eq_false_iff.2 fun herror => h (.error herror)
  cases hcontent : result.content with
  | nil => exact absurd (.empty hcontent) h
  | cons text more =>
    have hlong : limit < text.utf8ByteSize :=
      Nat.lt_of_not_le fun hshort => h (.short text more hcontent hshort)
    cases hread : read? text with
    | none => exact absurd (.unread text more hcontent hread) h
    | some output =>
      by_cases hresults : ∃ results, output.get? "results" = some (.array results)
      · obtain ⟨results, hresults⟩ := hresults
        exact ⟨text, output, results, hlimit, hsuccess, by rw [hcontent]; rfl, hlong, hread, hresults⟩
      · refine absurd (.noResults text more output hcontent hread ?_) h
        rintro results heq
        exact hresults ⟨results, heq⟩

/-- What is cut down is determined by the response. -/
theorem TooLong.unique (h : TooLong limit result text output results) {text' : String} {output' : Json}
    {results' : List Json} (hfirst : result.content.head? = some text') (hread : read? text' = some output')
    (hresults : output'.get? "results" = some (.array results')) :
    text = text' ∧ output = output' ∧ results = results' := by
  obtain rfl : text = text' := Option.some.inj (h.first.symm.trans hfirst)
  obtain rfl : output = output' := Option.some.inj (h.read.symm.trans hread)
  have hitems := Option.some.inj (h.results.symm.trans hresults)
  exact ⟨rfl, rfl, Json.array.inj hitems⟩

/-- What is cut down does not pass through. -/
theorem TooLong.not_passesThrough (h : TooLong limit result text output results) :
    ¬PassesThrough limit result := by
  have hfirst {text' : String} {more : List String} (hcontent : result.content = text' :: more) :
      text' = text := by
    have hhead := h.first
    rw [hcontent] at hhead
    exact Option.some.inj hhead
  -- each way to pass through misses one field of what is too long
  rintro (hzero | herror | hempty | ⟨text', more, hcontent, hshort⟩ | ⟨text', more, hcontent, hread⟩ |
    ⟨text', more, output', hcontent, hread, hresults⟩)
  · exact h.limited hzero
  · exact Bool.false_ne_true (h.success.symm.trans herror)
  · have hhead := h.first
    rw [hempty] at hhead
    cases hhead
  · cases hfirst hcontent
    exact absurd h.long (Nat.not_lt.2 hshort)
  · cases hfirst hcontent
    cases hread.symm.trans h.read
  · cases hfirst hcontent
    cases hread.symm.trans h.read
    exact hresults results h.results

theorem tidy_of_read? (h : read? text = some output) : Tidy output := by
  obtain ⟨tree, -, hvalue⟩ := Option.bind_eq_some_iff.1 h
  rintro pairs rfl
  exact ordered_of_value? hvalue

/-- What is cut down ends as the value that was read, with the results that the loop leaves and the size
that it measured last. -/
theorem TooLong.truncate_eq (h : TooLong limit result text output results) :
    ∃ last, Stops limit results.length (measured output results.length text.utf8ByteSize) last ∧
      truncate limit result = ofJson (noted output (results.length - last)
        (measured output results.length text.utf8ByteSize last)) := by
  obtain ⟨more, hcontent⟩ := List.head?_eq_some_iff.1 h.first
  have hself : StandsFor output results.length output := standsFor_self (tidy_of_read? h.read) h.results
  have hnone : ∀ dropped < 0, limit < measured output results.length text.utf8ByteSize dropped :=
    fun _ hlt => absurd hlt (Nat.not_lt_zero _)
  obtain ⟨last, hstops, hshort⟩ := exists_stops (Nat.zero_add _) hself hnone
  refine ⟨last, hstops, ?_⟩
  have hguard : (decide (limit = 0) || result.isError) = false := by
    rw [h.success, Bool.or_false, decide_eq_false h.limited]
  rw [truncate, hguard, if_neg Bool.false_ne_true, hcontent]
  dsimp only
  rw [if_neg (Nat.not_le.2 h.long), resultsIn?_of_results h.read h.results]
  exact congrArg ofJson hshort

/-! ### What an answer that was cut down tells -/

/-- A summary with the notes in it, and all else as it was. -/
structure NotesIn (summary : List (String × Json)) (kept bytes : Nat) (fields : List (String × Json)) :
    Prop where
  ordered : Ordered fields
  truncated : fields.lookup "truncated" = some (.bool true)
  returned : fields.lookup "returned" = some (.ofNat kept)
  responseBytes : fields.lookup "responseBytes" = some (.ofNat bytes)
  lookup : ∀ key, key ≠ "truncated" → key ≠ "returned" → key ≠ "responseBytes" →
    fields.lookup key = summary.lookup key

/-- The answer has the first results only and tells of it: in its summary, if this is an object, or else
itself. All else is as it was. -/
structure CutDown (output : Json) (results : List Json) (kept bytes : Nat) (answer : Json) : Prop where
  object : ∃ pairs, answer = .fields pairs ∧ Ordered pairs
  results : answer.get? "results" = some (.array (results.take kept))
  get? : ∀ key, key ≠ "results" → key ≠ "summary" → key ≠ "truncated" → answer.get? key = output.get? key
  in_summary : ∀ summary, output.get? "summary" = some (.fields summary) →
    answer.get? "truncated" = output.get? "truncated" ∧
      ∃ fields, answer.get? "summary" = some (.fields fields) ∧ NotesIn summary kept bytes fields
  at_top : (∀ summary, output.get? "summary" ≠ some (.fields summary)) →
    answer.get? "summary" = output.get? "summary" ∧ answer.get? "truncated" = some (.bool true)

/-- The notes of an answer are determined by what was cut. -/
theorem NotesIn.unique {summary fields fields' : List (String × Json)} {kept bytes : Nat}
    (h : NotesIn summary kept bytes fields) (h' : NotesIn summary kept bytes fields') : fields = fields' := by
  refine h.ordered.ext h'.ordered fun key => ?_
  by_cases htruncated : key = "truncated"
  · rw [htruncated, h.truncated, h'.truncated]
  by_cases hreturned : key = "returned"
  · rw [hreturned, h.returned, h'.returned]
  by_cases hbytes : key = "responseBytes"
  · rw [hbytes, h.responseBytes, h'.responseBytes]
  · rw [h.lookup key htruncated hreturned hbytes, h'.lookup key htruncated hreturned hbytes]

/-- There is one such answer. -/
theorem CutDown.unique {kept bytes : Nat} {answer answer' : Json}
    (h : CutDown output results kept bytes answer) (h' : CutDown output results kept bytes answer') :
    answer = answer' := by
  -- the notes stand in the summary if there is one, and at the top otherwise
  have hnotes : answer.get? "summary" = answer'.get? "summary" ∧
      answer.get? "truncated" = answer'.get? "truncated" := by
    rcases summary_cases output with ⟨summary, hsummary⟩ | hnone
    · obtain ⟨htop, fields, hfields, hnotes⟩ := h.in_summary summary hsummary
      obtain ⟨htop', fields', hfields', hnotes'⟩ := h'.in_summary summary hsummary
      exact ⟨by rw [hfields, hfields', hnotes.unique hnotes'], htop.trans htop'.symm⟩
    · obtain ⟨hsame, htop⟩ := h.at_top hnone
      obtain ⟨hsame', htop'⟩ := h'.at_top hnone
      exact ⟨hsame.trans hsame'.symm, htop.trans htop'.symm⟩
  obtain ⟨pairs, rfl, hordered⟩ := h.object
  obtain ⟨pairs', rfl, hordered'⟩ := h'.object
  refine congrArg Json.fields (hordered.ext hordered' fun key => ?_)
  by_cases hresults : key = "results"
  · rw [hresults]
    exact h.results.trans h'.results.symm
  by_cases hsummary : key = "summary"
  · rw [hsummary]
    exact hnotes.1
  by_cases htruncated : key = "truncated"
  · rw [htruncated]
    exact hnotes.2
  · exact (h.get? key hresults hsummary htruncated).trans (h'.get? key hresults hsummary htruncated).symm

/-- A summary with the note in it tells what was kept and how long the answer is, and all else as before. -/
theorem notesIn_notedSummary {summary : List (String × Json)} (h : Ordered summary) (kept bytes : Nat) :
    ∃ fields, notedSummary kept bytes summary = .fields fields ∧ NotesIn summary kept bytes fields := by
  have hordered := ordered_insertField "truncated" (.bool true) h
  refine ⟨_, rfl, ordered_insertField _ _ (ordered_insertField _ _ hordered), ?_, ?_, ?_, ?_⟩
  · rw [lookup_insertField, if_neg (by decide), lookup_insertField, if_neg (by decide),
      lookup_insertField, if_pos rfl]
  · rw [lookup_insertField, if_neg (by decide), lookup_insertField, if_pos rfl]
  · rw [lookup_insertField, if_pos rfl]
  · intro key htruncated hreturned hbytes
    rw [lookup_insertField, if_neg hbytes, lookup_insertField, if_neg hreturned, lookup_insertField,
      if_neg htruncated]

theorem ordered_summary {summary : List (String × Json)} (hread : read? text = some output)
    (hsummary : output.get? "summary" = some (.fields summary)) : Ordered summary := by
  obtain ⟨tree, -, hvalue⟩ := Option.bind_eq_some_iff.1 hread
  obtain ⟨item, depth, hitem⟩ := exists_value?_of_get? hvalue hsummary
  exact ordered_of_value? hitem

theorem Tidy.noted (h : Tidy output) (kept bytes : Nat) : Tidy (noted output kept bytes) := by
  have hkeep : Tidy (keepResults kept output) := by
    rw [keepResults]
    split
    · exact h.setField _ _
    · exact h
  rw [ToolResult.noted, mark]
  split
  · exact hkeep.setField _ _
  · exact hkeep.setField _ _

theorem eq_fields_of_get? (h : output.get? key = some value) : ∃ pairs, output = .fields pairs := by
  cases output with
  | fields pairs => exact ⟨pairs, rfl⟩
  | _ => cases h

/-- What is written down is cut down as it should be. -/
theorem cutDown_noted (hread : read? text = some output)
    (hresults : output.get? "results" = some (.array results)) (kept bytes : Nat) :
    CutDown output results kept bytes (noted output kept bytes) := by
  have hget : (noted output kept bytes).get? "results" = some (.array (results.take kept)) := by
    rw [noted, get?_mark_results, keepResults_of_results hresults]
    exact get?_setField_self hresults _ _
  have hsummary : (keepResults kept output).get? "summary" = output.get? "summary" :=
    get?_keepResults_of_ne (by decide) kept output
  -- the results are cut first, and the note goes into the summary or beside it
  constructor
  case object =>
    obtain ⟨pairs, hpairs⟩ := eq_fields_of_get? hget
    exact ⟨pairs, hpairs, (tidy_of_read? hread).noted kept bytes pairs hpairs⟩
  case results => exact hget
  case get? =>
    intro key hkey hother htruncated
    have hkeeps := (keeps_keepResults kept output).trans (keeps_mark kept bytes _)
    exact hkeeps.get? key hkey hother htruncated
  case in_summary =>
    intro summary hfields
    obtain ⟨fields, hnoted, hnotes⟩ := notesIn_notedSummary (ordered_summary hread hfields) kept bytes
    rw [noted, mark_of_summary (hsummary.trans hfields), hnoted]
    refine ⟨?_, fields, get?_setField_self (hsummary.trans hfields) _ _, hnotes⟩
    rw [get?_setField_of_ne (by decide), get?_keepResults_of_ne (by decide)]
  case at_top =>
    intro hnone
    have hkept : (keepResults kept output).get? "results" = some (.array (results.take kept)) := by
      rw [← hget, noted, get?_mark_results]
    rw [noted, mark_of_no_summary fun summary hfields => hnone summary (hsummary.symm.trans hfields)]
    exact ⟨(get?_setField_of_ne (by decide) _ _).trans hsummary, get?_setField_self hkept _ _⟩

/-! ### The size of an answer that was cut down -/

/-- The number that is noted changes the length of an answer by its own length. -/
theorem size_noted_of_summary {summary : List (String × Json)}
    (h : output.get? "summary" = some (.fields summary)) (kept bytes bytes' : Nat) :
    (noted output kept bytes).size + (ofNat bytes').size =
      (noted output kept bytes').size + (ofNat bytes).size := by
  have hsummary : (keepResults kept output).get? "summary" = some (.fields summary) := by
    rw [get?_keepResults_of_ne (by decide), h]
  obtain ⟨pairs, hpairs⟩ := eq_fields_of_get? hsummary
  rw [noted, mark_of_summary hsummary, noted, mark_of_summary hsummary, hpairs]
  -- the summary changes by the number, and the answer by the summary
  have houter := size_setField "summary" (notedSummary kept bytes summary)
    (notedSummary kept bytes' summary) pairs
  have hinner : (notedSummary kept bytes summary).size + (ofNat bytes').size =
      (notedSummary kept bytes' summary).size + (ofNat bytes).size :=
    size_setField "responseBytes" (ofNat bytes) (ofNat bytes') _
  omega

theorem noted_of_no_summary (h : ∀ summary, output.get? "summary" ≠ some (.fields summary))
    (kept bytes bytes' : Nat) : noted output kept bytes = noted output kept bytes' := by
  have hnone : ∀ summary, (keepResults kept output).get? "summary" ≠ some (.fields summary) := by
    intro summary
    rw [get?_keepResults_of_ne (by decide)]
    exact h summary
  rw [noted, mark_of_no_summary hnone, noted, mark_of_no_summary hnone]

/-- With a smaller number in its note an answer does not get longer. -/
theorem size_noted_mono {bytes bytes' : Nat} (h : bytes ≤ bytes') (hfits : bytes' < 2 ^ 64)
    (output : Json) (kept : Nat) : (noted output kept bytes).size ≤ (noted output kept bytes').size := by
  rcases summary_cases output with ⟨summary, hsummary⟩ | hnone
  · have hsizes := size_noted_of_summary hsummary kept bytes bytes'
    rw [size_ofNat hfits, size_ofNat (Nat.lt_of_le_of_lt h hfits)] at hsizes
    have hdigits : digitCount bytes ≤ digitCount bytes' := digitCount_mono h
    omega
  · rw [noted_of_no_summary hnone kept bytes bytes']

/-- The sizes that are measured fit 64 bits, as the lengths of texts do. -/
def Fits (total : Nat) (sizes : Nat → Nat) : Prop :=
  ∀ dropped ≤ total, sizes dropped < 2 ^ 64

/-- An answer that still has results is short enough. -/
theorem size_noted_le {total start last : Nat} (hstart : limit < start)
    (hstops : Stops limit total (measured output total start) last)
    (hfits : Fits total (measured output total start)) (hkept : last ≠ total) :
    (noted output (total - last) (measured output total start last)).size ≤ limit := by
  have hshort : measured output total start last ≤ limit := hstops.short_enough.resolve_left hkept
  cases last with
  | zero => exact absurd hshort (Nat.not_le.2 hstart)
  | succ dropped =>
    -- the size that stood in the note was too long, so it is greater than the one that takes its place
    have hlong : limit < measured output total start dropped :=
      hstops.too_long dropped (Nat.lt_succ_self _)
    have hle : measured output total start (dropped + 1) ≤ measured output total start dropped :=
      Nat.le_of_lt (Nat.lt_of_le_of_lt hshort hlong)
    have hfit : measured output total start dropped < 2 ^ 64 :=
      hfits dropped (Nat.le_of_succ_le hstops.le_total)
    calc (noted output (total - (dropped + 1)) (measured output total start (dropped + 1))).size
        ≤ (noted output (total - (dropped + 1)) (measured output total start dropped)).size :=
          size_noted_mono hle hfit output _
      _ = measured output total start (dropped + 1) := (utf8ByteSize_render _).symm
      _ ≤ limit := hshort

/-- What passes through is given as it is. Anything else keeps its first results, with the notes and
without any other change; unless no result is left, it is short enough then. -/
theorem truncate_keeps_results (limit : Nat) (result : ToolResult) :
    (PassesThrough limit result → truncate limit result = result) ∧
      (¬PassesThrough limit result → ∃ text output results, TooLong limit result text output results ∧
        ∃ kept ≤ results.length, ∃ bytes answer, truncate limit result = ofJson answer ∧
          CutDown output results kept bytes answer ∧
          (Fits results.length (measured output results.length text.utf8ByteSize) →
            kept = 0 ∨ answer.render.utf8ByteSize ≤ limit)) := by
  refine ⟨truncate_of_passesThrough, fun h => ?_⟩
  obtain ⟨text, output, results, hlong⟩ := exists_tooLong h
  obtain ⟨last, hstops, htruncate⟩ := hlong.truncate_eq
  refine ⟨text, output, results, hlong, results.length - last, Nat.sub_le _ _, _, _, htruncate,
    cutDown_noted hlong.read hlong.results _ _, fun hfits => ?_⟩
  by_cases hall : last = results.length
  · exact .inl (by omega)
  · rw [utf8ByteSize_render]
    exact .inr (size_noted_le hlong.long hstops hfits hall)

/-- Two results, of 30 and of 71 letters. -/
def crowdedResults : List Json :=
  [.string (String.ofList (List.replicate 30 'a')), .string (String.ofList (List.replicate 71 'x'))]

/-- An answer of 133 bytes. -/
def crowded : Json :=
  .fields [("results", .array crowdedResults), ("summary", .fields [])]

theorem read?_crowded : read? crowded.render = some crowded := by
  rw [read?_render]
  rfl

theorem utf8ByteSize_crowded : crowded.render.utf8ByteSize = 133 := by
  decide +kernel

theorem measured_crowded : measured crowded 2 133 0 = 133 ∧ measured crowded 2 133 1 = 108 ∧
    measured crowded 2 133 2 = 76 := by
  decide +kernel

theorem tooLong_crowded {limit : Nat} (hlimit : limit ≠ 0) (hlong : limit < 133) :
    TooLong limit (ofJson crowded) crowded.render crowded crowdedResults where
  limited := hlimit
  success := rfl
  first := rfl
  long := by rwa [utf8ByteSize_crowded]
  read := read?_crowded
  results := rfl

theorem fits_crowded : Fits 2 (measured crowded 2 crowded.render.utf8ByteSize) := by
  intro dropped hdropped
  obtain ⟨hzero, hone, htwo⟩ := measured_crowded
  rw [utf8ByteSize_crowded]
  obtain rfl | rfl | rfl : dropped = 0 ∨ dropped = 1 ∨ dropped = 2 := by omega
  · rw [hzero]
    decide
  · rw [hone]
    decide
  · rw [htwo]
    decide

/-- A limit of 120 bytes leaves the answer with some of its results or with none. -/
theorem truncate_keeps_results_crowded :
    ¬PassesThrough 120 (ofJson crowded) ∧
      ∃ kept ≤ 2, ∃ bytes answer, truncate 120 (ofJson crowded) = ofJson answer ∧
        CutDown crowded crowdedResults kept bytes answer ∧
        (kept = 0 ∨ answer.render.utf8ByteSize ≤ 120) := by
  have hlong : TooLong 120 (ofJson crowded) crowded.render crowded crowdedResults :=
    tooLong_crowded (by decide) (by decide)
  have hpasses : ¬PassesThrough 120 (ofJson crowded) := hlong.not_passesThrough
  obtain ⟨text, output, results, hlong', kept, hkept, bytes, answer, htruncate, hcut, hshort⟩ :=
    (truncate_keeps_results 120 (ofJson crowded)).2 hpasses
  obtain ⟨rfl, rfl, rfl⟩ := hlong.unique hlong'.first hlong'.read hlong'.results
  exact ⟨hpasses, kept, hkept, bytes, answer, htruncate, hcut, hshort fits_crowded⟩

end Concordance.ToolResult
