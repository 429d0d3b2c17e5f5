import ClassTypings.CommandLine.Reader
/-!
# Paths of a command

No path in an accepted command line is empty. A slot for a path is filled in one place only, which
refuses an empty value, so this holds after every argument.
-/
namespace ClassTypings

private theorem exists_of_bind_eq_ok {ε α β : Type} {x : Except ε α} {f : α → Except ε β} {b : β}
    (h : (x >>= f) = .ok b) : ∃ a, x = .ok a ∧ f a = .ok b := by
  cases x with
  | error e => exact nomatch h
  | ok a => exact ⟨a, rfl, h⟩

namespace Intake

variable {i i' : Intake} {topic : HelpTopic} {known : List Opt} {opt : Opt} {name value : Bytes}
  {slot : Slot}

/-- No path that has been put in its slot is empty. -/
def PathsGiven (i : Intake) : Prop :=
  ∀ slot value, (slot, value) ∈ i.filled → slot.isPath → value ≠ []

theorem PathsGiven.fill (h : i.PathsGiven) (hfill : i.fill slot value = .ok i') :
    i'.PathsGiven := by
  unfold Intake.fill at hfill
  split at hfill
  · simp at hfill
  · split at hfill
    · simp at hfill
    · rename_i hvalue
      split at hfill
      · simp at hfill
      · obtain rfl := Except.ok.inj hfill
        intro slot' value' hmem hpath
        rcases List.mem_append.mp hmem with hmem | hmem
        · exact h slot' value' hmem hpath
        · obtain ⟨rfl, rfl⟩ := Prod.mk.inj (List.mem_singleton.mp hmem)
          simpa [hpath] using hvalue

theorem PathsGiven.settle (h : i.PathsGiven) (hsettle : i.settle = .ok i') : i'.PathsGiven := by
  unfold Intake.settle at hsettle
  split at hsettle
  · exact Except.ok.inj hsettle ▸ h
  · simp at hsettle
  · have hrest : PathsGiven { i with waiting := none } := h
    exact hrest.fill hsettle

theorem PathsGiven.attach (h : i.PathsGiven) (hattach : i.attach opt value = .ok i') :
    i'.PathsGiven := by
  obtain ⟨j, hsettle, hfill⟩ := exists_of_bind_eq_ok hattach
  exact (h.settle hsettle).fill hfill

theorem PathsGiven.await (h : i.PathsGiven) (hawait : i.await opt = .ok i') : i'.PathsGiven := by
  obtain ⟨j, hsettle, hwait⟩ := exists_of_bind_eq_ok hawait
  have hsettled := h.settle hsettle
  obtain rfl := Except.ok.inj hwait
  exact hsettled

theorem PathsGiven.flag (h : i.PathsGiven) (hflag : i.flag topic opt = .ok i') :
    i'.PathsGiven := by
  obtain ⟨j, hsettle, hfill⟩ := exists_of_bind_eq_ok hflag
  split at hfill
  · simp at hfill
  · split at hfill
    · simp at hfill
    · exact (h.settle hsettle).fill hfill

theorem PathsGiven.path (h : i.PathsGiven) (hpath : i.path value = .ok i') : i'.PathsGiven := by
  unfold Intake.path at hpath
  split at hpath
  · simp at hpath
  · obtain ⟨j, hsettle, hwait⟩ := exists_of_bind_eq_ok hpath
    have hsettled := h.settle hsettle
    obtain rfl := Except.ok.inj hwait
    exact hsettled

theorem PathsGiven.word (h : i.PathsGiven) (hword : i.word value = .ok i') : i'.PathsGiven := by
  unfold Intake.word at hword
  split at hword
  · obtain rfl := Except.ok.inj hword
    exact h
  · exact h.path hword

theorem PathsGiven.long {value : Option Bytes} (h : i.PathsGiven)
    (hlong : i.long topic known name value = .ok i') : i'.PathsGiven := by
  unfold Intake.long at hlong
  split at hlong
  · simp at hlong
  · split at hlong
    · exact h.await hlong
    · exact h.flag hlong
  · split at hlong
    · exact h.attach hlong
    · simp at hlong

theorem PathsGiven.short {cluster : Bytes} (h : i.PathsGiven)
    (hshort : Intake.short topic known i cluster = .ok i') : i'.PathsGiven := by
  induction cluster generalizing i with
  | nil => exact Except.ok.inj hshort ▸ h
  | cons name t ih =>
    unfold Intake.short at hshort
    split at hshort
    · simp at hshort
    · split at hshort
      · split at hshort
        · exact h.await hshort
        · exact h.attach hshort
      · obtain ⟨j, hflag, hrest⟩ := exists_of_bind_eq_ok hshort
        exact ih (h.flag hflag) hrest

theorem PathsGiven.read {divided : Bool} {args : List Bytes} (h : i.PathsGiven)
    (hread : Intake.read topic known divided i args = .ok i') : i'.PathsGiven := by
  induction args generalizing i divided with
  | nil => exact h.settle hread
  | cons arg args ih =>
    unfold Intake.read at hread
    split at hread
    · obtain ⟨j, hpath, hrest⟩ := exists_of_bind_eq_ok hread
      exact ih (h.path hpath) hrest
    · split at hread
      · exact ih h hread
      · obtain ⟨j, hlong, hrest⟩ := exists_of_bind_eq_ok hread
        exact ih (h.long hlong) hrest
      · obtain ⟨j, hshort, hrest⟩ := exists_of_bind_eq_ok hread
        exact ih (h.short hshort) hrest
      · obtain ⟨j, hword, hrest⟩ := exists_of_bind_eq_ok hread
        exact ih (h.word hword) hrest

theorem PathsGiven.value? (h : i.PathsGiven) (hpath : slot.isPath)
    (hvalue : i.value? slot = some value) : value ≠ [] := by
  obtain ⟨front, back, hsplit, -⟩ := List.lookup_eq_some_iff.mp hvalue
  exact h slot value (by rw [hsplit]; simp) hpath

theorem PathsGiven.treeJob (h : i.PathsGiven) {job : TreeJob} (hjob : i.treeJob = .ok job) :
    job.source.bytes ≠ [] ∧ job.target.bytes ≠ [] := by
  unfold Intake.treeJob at hjob
  split at hjob
  · simp at hjob
  · rename_i source hsource
    obtain rfl := Except.ok.inj hjob
    refine ⟨h.value? rfl hsource, ?_⟩
    cases htarget : i.value? (.option .outputDir) with
    | none => simp [Path.ofText, Text.bytes]
    | some target => exact h.value? rfl htarget

end Intake

namespace Invocation

private theorem ofCommand_batch {verbose verbose' : Bool} {args : List Bytes}
    {command : CommandName}
    {job : TreeJob} (h : ofCommand verbose args command = .ok ⟨verbose', .batch job⟩) :
    job.source.bytes ≠ [] ∧ job.target.bytes ≠ [] := by
  cases command with
  | convert =>
    obtain ⟨i, -, hrest⟩ := exists_of_bind_eq_ok h
    obtain ⟨job', -, hinvocation⟩ := exists_of_bind_eq_ok hrest
    exact nomatch Except.ok.inj hinvocation
  | batch =>
    obtain ⟨i, hread, hrest⟩ := exists_of_bind_eq_ok h
    obtain ⟨job', hjob, hinvocation⟩ := exists_of_bind_eq_ok hrest
    have hgiven : i.PathsGiven := Intake.PathsGiven.read (i := {}) nofun hread
    obtain ⟨-, hbatch⟩ := Invocation.mk.inj (Except.ok.inj hinvocation)
    obtain rfl := Command.batch.inj hbatch
    exact hgiven.treeJob hjob
  | help =>
    simp only [ofCommand] at h
    split at h <;> simp at h

private theorem paths_of_read {i : Intake} {args : List Bytes} {verbose : Bool} {job : TreeJob}
    (h : read i args = .ok ⟨verbose, .batch job⟩) :
    job.source.bytes ≠ [] ∧ job.target.bytes ≠ [] := by
  induction args generalizing i with
  | nil => simp [read] at h
  | cons arg args ih =>
    unfold read at h
    split at h
    · simp at h
    · obtain ⟨j, -, hrest⟩ := exists_of_bind_eq_ok h
      exact ih hrest
    · obtain ⟨j, -, hrest⟩ := exists_of_bind_eq_ok h
      exact ih hrest
    · split at h
      · exact ofCommand_batch h
      · simp at h

/-- A command line that asks for a batch names two paths that are not empty. -/
theorem paths_of_batch {args : List Bytes} {verbose : Bool} {job : TreeJob}
    (h : ofArguments args = .ok ⟨verbose, .batch job⟩) :
    job.source.bytes ≠ [] ∧ job.target.bytes ≠ [] := paths_of_read h

end Invocation
end ClassTypings
