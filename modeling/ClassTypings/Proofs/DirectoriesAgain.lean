import ClassTypings.Proofs.NewDirectories
import Mathlib.Data.List.Chain
/-!
# Directories made again

Making a directory once more, with all that is missing above it, changes nothing. It is refused
again when it was refused before, though perhaps for another cause: a path can only lead to a
directory, old or new, when the path above it leads to one.
-/
namespace ClassTypings
namespace Path

/-- The path begins like the other one and takes at least one more step. -/
structure LiesBelow (p q : Path) : Prop where
  bytes : q.bytes <+: p.bytes
  steps : ∃ c more, p.steps = q.steps ++ c :: more

/-- Each of the paths lies below the next one, unless that is empty. -/
def Descending (paths : List Path) : Prop := paths.IsChain fun p q => q.bytes ≠ [] → p.LiesBelow q

/-- The path begins like the other one and takes one more step, not counting those that stay where
they are. -/
structure OneStepBelow (p q : Path) : Prop where
  bytes : q.bytes <+: p.bytes
  steps : ∃ back c, p.steps = q.steps ++ back ∧ back.filter (· != .here) = [c]

theorem OneStepBelow.liesBelow {p q : Path} (h : p.OneStepBelow q) : p.LiesBelow q := by
  obtain ⟨back, c, hsteps, hback⟩ := h.steps
  cases back with
  | nil => simp at hback
  | cons d more => exact ⟨h.bytes, d, more, hsteps⟩

/-- Each of the paths takes one more step than the next one, unless that is empty. -/
def Nested (paths : List Path) : Prop := paths.IsChain fun p q => q.bytes ≠ [] → p.OneStepBelow q

theorem Nested.descending {paths : List Path} (h : Nested paths) : Descending paths :=
  h.imp fun _ _ hbelow hne => (hbelow hne).liesBelow

section Above

variable {p : Path} {first : Bytes} {front tail rev : List Bytes}

private theorem noSlash_of_mem_pieces {piece : Bytes} (h : piece ∈ p.pieces) : Byte.slash ∉ piece :=
  (Bytes.of_mem_splitOn h).1

theorem bytes_eq_intercalate (p : Path) : p.bytes = [Byte.slash].intercalate p.pieces :=
  (List.intercalate_splitOn Byte.slash).symm

theorem intercalate_prefix (separator : Bytes) (first : Bytes) (front tail : List Bytes) :
    separator.intercalate (first :: front) <+:
      separator.intercalate (first :: (front ++ tail)) := by
  induction front generalizing first with
  | nil =>
    cases tail with
    | nil => exact List.prefix_rfl
    | cons next tail =>
      rw [List.nil_append, List.intercalate_cons_cons, List.append_assoc,
        List.intercalate_singleton]
      exact List.prefix_append _ _
  | cons next front ih =>
    rw [List.cons_append, List.intercalate_cons_cons, List.intercalate_cons_cons,
      List.prefix_append_right_inj]
    exact ih next

theorem pieces_intercalate (hp : p.pieces = first :: (front ++ tail)) :
    pieces ⟨[Byte.slash].intercalate (first :: front)⟩ = first :: front := by
  refine List.splitOn_intercalate Byte.slash (fun piece hpiece => ?_) (List.cons_ne_nil _ _)
  apply noSlash_of_mem_pieces (p := p)
  rw [hp, ← List.cons_append]
  exact List.mem_append_left _ hpiece

/-- The pieces hold one step, not counting those that stay where they are. -/
def HoldOneStep (pieces : List Bytes) : Prop :=
  ∃ c, (pieces.filterMap Component.ofPiece?).filter (· != .here) = [c]

private theorem oneStepBelow_of_pieces (hp : p.pieces = first :: (front ++ tail))
    (htail : HoldOneStep tail) : p.OneStepBelow ⟨[Byte.slash].intercalate (first :: front)⟩ := by
  obtain ⟨c, hc⟩ := htail
  refine ⟨?_, tail.filterMap Component.ofPiece?, c, ?_, hc⟩
  · rw [bytes_eq_intercalate p, hp]
    exact intercalate_prefix _ _ _ _
  · simp only [steps, pieces_intercalate hp]
    rw [hp, ← List.cons_append, List.filterMap_append]

private theorem oneStepBelow_root (hp : p.pieces = [] :: tail) (htail : HoldOneStep tail) :
    p.OneStepBelow ⟨[Byte.slash]⟩ := by
  obtain ⟨c, hc⟩ := htail
  refine ⟨?_, tail.filterMap Component.ofPiece?, c, ?_, hc⟩
  · rw [bytes_eq_intercalate p, hp]
    cases tail with
    | nil => simp at hc
    | cons next tail => exact List.prefix_append [Byte.slash] _
  · rw [steps, hp]
    rfl

private theorem holdOneStep_cons_of_idle {piece : Bytes} (h : isIdle piece)
    (htail : HoldOneStep tail) :
    HoldOneStep (piece :: tail) := by
  obtain ⟨c, hc⟩ := htail
  refine ⟨c, ?_⟩
  obtain rfl | rfl : piece = [] ∨ piece = [Byte.dot] := by simpa [isIdle] using h
  · rwa [List.filterMap_cons_none rfl]
  · have hhere : Component.ofPiece? [Byte.dot] = some .here := rfl
    rwa [List.filterMap_cons_some hhere, List.filter_cons_of_neg (by simp)]

theorem eq_here_of_isIdle {idle : List Bytes} (h : ∀ piece ∈ idle, isIdle piece) :
    ∀ c ∈ idle.filterMap Component.ofPiece?, c = .here := by
  intro c hc
  obtain ⟨piece, hpiece, hof⟩ := List.mem_filterMap.mp hc
  have hidle := h piece hpiece
  simp only [isIdle, Bool.or_eq_true, beq_iff_eq] at hidle
  rcases hidle with rfl | rfl
  · simp [Component.ofPiece?] at hof
  · exact (Option.some.inj hof).symm

private theorem holdOneStep_of_busy {piece : Bytes} (h : isIdle piece = false) {idle : List Bytes}
    (hidle : ∀ other ∈ idle, isIdle other) : HoldOneStep (piece :: idle) := by
  obtain ⟨c, hc, hmoves⟩ := exists_step_of_busy h
  have hstays : (idle.filterMap Component.ofPiece?).filter (· != .here) = [] :=
    List.filter_eq_nil_iff.mpr fun c hc => by simp [eq_here_of_isIdle hidle c hc]
  refine ⟨c, ?_⟩
  rw [List.filterMap_cons_some hc, List.filter_cons_of_pos (by simpa using hmoves), hstays]

private theorem nested_prefixes (hp : p.pieces = first :: (rev.reverse ++ tail))
    (htail : HoldOneStep tail) : Nested (p :: prefixes first rev) := by
  induction rev generalizing p tail with
  | nil =>
    rw [List.reverse_nil] at hp
    rw [prefixes]
    split
    · rename_i hroot
      rw [List.isEmpty_iff] at hroot
      subst hroot
      exact List.IsChain.cons_cons (fun _ => oneStepBelow_root hp htail) (.singleton _)
    · have hbelow := oneStepBelow_of_pieces hp htail
      rw [List.intercalate_singleton] at hbelow
      exact List.IsChain.cons_cons (fun _ => hbelow)
        (.cons_cons (fun hne => absurd rfl hne) (.singleton _))
  | cons piece rev ih =>
    rw [List.reverse_cons] at hp
    rw [prefixes]
    split
    · -- The piece adds no step to what is dropped already.
      rename_i hidle
      rw [List.append_assoc, List.singleton_append] at hp
      exact ih hp (holdOneStep_cons_of_idle hidle htail)
    · rename_i hbusy
      rw [List.reverse_cons]
      exact List.IsChain.cons_cons (fun _ => oneStepBelow_of_pieces hp htail)
        (ih (pieces_intercalate hp)
          (holdOneStep_of_busy (Bool.not_eq_true _ ▸ hbusy) (List.forall_mem_nil _)))

theorem nested_above (p : Path) : Nested (p :: p.above) := by
  unfold above
  split
  · exact .singleton _
  · rename_i first pieces hpieces
    split
    · split
      · exact .singleton _
      · exact List.IsChain.cons_cons (fun hne => absurd rfl hne) (.singleton _)
    · rename_i piece rev hdrop
      have hsplit := List.takeWhile_append_dropWhile (p := isIdle) (l := pieces.reverse)
      have hbusy : isIdle piece = false := by
        have := List.head?_dropWhile_not isIdle pieces.reverse
        simpa [hdrop] using this
      have hidle : ∀ other ∈ (pieces.reverse.takeWhile isIdle).reverse, isIdle other :=
        fun other hother =>
          List.all_eq_true.mp List.all_takeWhile other (List.mem_reverse.mp hother)
      have hreverse := congrArg List.reverse hsplit
      rw [hdrop, List.reverse_reverse, List.reverse_append, List.reverse_cons, List.append_assoc,
        List.singleton_append] at hreverse
      rw [← hreverse] at hpieces
      exact nested_prefixes hpieces (holdOneStep_of_busy hbusy hidle)

theorem descending_above (p : Path) : Descending (p :: p.above) := (nested_above p).descending

end Above
end Path

theorem Path.LiesBelow.spelling {p q : Path} (h : p.LiesBelow q) (hq : q.bytes ≠ [])
    (hspelling : Workspace.spellingFault? p = none) : Workspace.spellingFault? q = none := by
  obtain ⟨hnul, -, hsize⟩ := Workspace.spellingFault?_eq_none_iff.mp hspelling
  obtain ⟨rest, hrest⟩ := h.bytes
  rw [← hrest, List.mem_append, not_or] at hnul
  rw [← hrest, List.length_append] at hsize
  exact Workspace.spellingFault?_eq_none_iff.mpr ⟨hnul.1, hq, by omega⟩

theorem Path.LiesBelow.isAbsolute {p q : Path} (h : p.LiesBelow q) (hq : q.bytes ≠ []) :
    p.isAbsolute = q.isAbsolute := by
  obtain ⟨rest, hrest⟩ := h.bytes
  obtain ⟨a, t, ht⟩ := List.exists_cons_of_ne_nil hq
  rw [Path.isAbsolute, Path.isAbsolute, ← hrest, ht]
  rfl

theorem Path.LiesBelow.start {w : Workspace} {p q : Path} (h : p.LiesBelow q) (hq : q.bytes ≠ []) :
    w.start p = w.start q := by
  rw [Workspace.start, Workspace.start, h.isAbsolute hq]

namespace Workspace

section Again

variable {w made : Workspace} {p q : Path} {location last dir : Location} {cs : List Component}
  {paths above : List Path}

private theorem isDirectory_of_walk {tree : FileTree} (h : walk tree location cs = .ok last)
    (hlast : tree.node? last = some .directory) : tree.node? location = some .directory := by
  cases cs with
  | nil =>
    obtain rfl := Except.ok.inj h
    exact hlast
  | cons c cs => exact (walk_cons_eq_ok_iff.mp h).1

private theorem isDirectory_of_lastStep (h : p.LiesBelow q) (hq : q.bytes ≠ [])
    {c : Option Component}
    (hlast : w.lastStep p = .ok (dir, c)) : w.isDirectory q := by
  obtain ⟨hspelling, hwalk, hdir, -⟩ := lastStep_eq_ok_iff.mp hlast
  obtain ⟨c', more, hsteps⟩ := h.steps
  rw [hsteps, List.dropLast_append_cons, h.start hq, walk_append_eq_ok_iff] at hwalk
  obtain ⟨mid, hfront, hback⟩ := hwalk
  have hmid := isDirectory_of_walk hback hdir
  have hlocate := locate_eq_ok_iff.mpr ⟨h.spelling hq hspelling, hfront, fun _ => hmid⟩
  exact exists_leads_iff.mp ⟨mid, hlocate, hmid⟩

private theorem lastStep_of_isDirectory (h : w.isDirectory p) :
    ∃ dir c, w.lastStep p = .ok (dir, c) ∧ ∀ name, c = some (.name name) →
      name.length ≤ maxNameSize ∧ w.tree.node? (name :: dir) = some .directory := by
  obtain ⟨location, hlocate, hdirectory⟩ := exists_leads_iff.mpr h
  obtain ⟨hspelling, hwalk, -⟩ := locate_eq_ok_iff.mp hlocate
  rcases List.eq_nil_or_concat' p.steps with hnil | ⟨front, c, hconcat⟩
  · rw [hnil] at hwalk
    obtain rfl := Except.ok.inj hwalk
    refine ⟨w.start p, none, lastStep_eq_ok_iff.mpr ⟨hspelling, ?_, hdirectory, ?_⟩, nofun⟩
    · rw [hnil]
      rfl
    · rw [hnil]
      rfl
  · rw [hconcat] at hwalk
    obtain ⟨dir, hfront, hdir, hstep⟩ := walk_concat_eq_ok_iff.mp hwalk
    refine ⟨dir, some c, lastStep_eq_ok_iff.mpr ⟨hspelling, ?_, hdir, ?_⟩, ?_⟩
    · rwa [hconcat, List.dropLast_concat]
    · rw [hconcat, List.getLast?_concat]
    · intro name hname
      obtain rfl := Option.some.inj hname
      by_cases hlong : maxNameSize < name.length
      · simp [step, hlong] at hstep
      · rw [step_name_of_size (Nat.not_lt.mp hlong)] at hstep
        obtain rfl := Except.ok.inj hstep
        exact ⟨Nat.not_lt.mp hlong, hdirectory⟩

theorem makeDirectory_of_isDirectory (h : w.isDirectory p) :
    w.makeDirectory p = .error .alreadyExists := by
  obtain ⟨dir, c, hlast, hname⟩ := lastStep_of_isDirectory h
  unfold makeDirectory
  rw [hlast]
  split
  · simp_all
  · rename_i dir' name heq
    obtain ⟨rfl, rfl⟩ := Prod.mk.inj (Except.ok.inj heq)
    obtain ⟨hsize, hnode⟩ := hname name rfl
    rw [if_neg (Nat.not_lt.mpr hsize), if_pos (by simp [hnode])]
  · rfl

theorem makeChain_of_isDirectory (h : w.isDirectory p) (above : List Path) :
    w.makeChain (p :: above) = (w, none) := by
  have hentry : Fault.alreadyExists ≠ Fault.noEntry := by decide
  simp only [makeChain, makeDirectory_of_isDirectory h, if_neg hentry, if_pos h, ite_self]

private theorem lastStep_of_makeDirectory (h : w.makeDirectory p = .ok made) :
    ∃ dir c, w.lastStep p = .ok (dir, c) := by
  unfold makeDirectory at h
  split at h
  · simp at h
  · exact ⟨_, _, ‹_›⟩
  · simp at h

/-- How making a chain is refused: at once, above, or after what is above has been made. -/
theorem makeChain_eq_fault {fault : Fault} (h : w.makeChain (p :: above) = (made, some fault)) :
    p.bytes ≠ [] ∧
      (made = w ∨
        (∃ cause, w.makeChain above = (made, some cause)) ∨
        w.makeChain above = (made, none) ∧ ¬ made.isDirectory p ∧
          made.makeDirectory p = .error fault) := by
  have hne : p.bytes ≠ [] := by
    intro hnil
    simp [makeChain, hnil] at h
  refine ⟨hne, ?_⟩
  rw [makeChain, if_neg (by simpa using hne)] at h
  cases hmake : w.makeDirectory p with
  | ok made' => simp [hmake] at h
  | error cause =>
    by_cases hentry : cause = .noEntry
    · cases hchain : w.makeChain above with
      | mk below cause' =>
        cases cause' with
        | some cause' =>
          obtain ⟨rfl, rfl⟩ : below = made ∧ cause' = fault := by
            simpa [hmake, hentry, hchain] using h
          exact .inr (.inl ⟨cause', rfl⟩)
        | none =>
          cases hagain : below.makeDirectory p with
          | ok made' => simp [hmake, hentry, hchain, hagain] at h
          | error fault' =>
            by_cases hdir : below.isDirectory p
            · simp [hmake, hentry, hchain, hagain, hdir] at h
            · obtain ⟨rfl, rfl⟩ : below = made ∧ fault' = fault := by
                simpa [hmake, hentry, hchain, hagain, hdir] using h
              exact .inr (.inr ⟨rfl, hdir, hagain⟩)
    · by_cases hdir : w.isDirectory p
      · simp [hmake, hentry, hdir] at h
      · obtain ⟨rfl, -⟩ : w = made ∧ cause = fault := by simpa [hmake, hentry, hdir] using h
        exact .inl rfl

/-- Making a chain is refused and changes nothing when nothing changes above and the first path is
no directory and cannot be made one. -/
private theorem exists_fault_of_makeChain {fault : Fault} {cause : Option Fault}
    (hne : p.bytes ≠ [])
    (habove : w.makeChain above = (w, cause)) (hdir : ¬ w.isDirectory p)
    (hmake : w.makeDirectory p = .error fault) :
    ∃ fault, w.makeChain (p :: above) = (w, some fault) := by
  rw [makeChain, if_neg (by simpa using hne), hmake]
  by_cases hentry : fault = .noEntry
  · cases cause with
    | some cause => exact ⟨cause, by simp [hentry, habove]⟩
    | none => exact ⟨fault, by simp [hentry, habove, hmake, hdir]⟩
  · exact ⟨fault, by simp [hentry, hdir]⟩

private theorem makeChain_eq_none_again (h : w.makeChain paths = (made, none)) :
    made.makeChain paths = (made, none) := by
  cases paths with
  | nil => rfl
  | cons p above =>
    by_cases hne : p.bytes = []
    · simp [makeChain, hne]
    · exact makeChain_of_isDirectory (isDirectory_of_makeChain hne h) above

private theorem makeChain_eq_fault_again (hpaths : Path.Descending paths) {fault : Fault}
    (h : w.makeChain paths = (made, some fault)) :
    ∃ fault, made.makeChain paths = (made, some fault) := by
  induction paths generalizing fault with
  | nil => simp [makeChain] at h
  | cons p above ih =>
    obtain ⟨hne, rfl | ⟨cause, habove⟩ | ⟨habove, hdir, hmake⟩⟩ := makeChain_eq_fault h
    · exact ⟨fault, h⟩
    · obtain ⟨cause', hagain⟩ := ih hpaths.tail habove
      -- What is above cannot be made, so the path can neither be made nor be a directory.
      have hlast : ∀ dir c, made.lastStep p ≠ .ok (dir, c) := by
        intro dir c hlast
        cases above with
        | nil => simp [makeChain] at hagain
        | cons q above =>
          have hq := (makeChain_eq_fault hagain).1
          have hbelow := (List.isChain_cons_cons.mp hpaths).1 hq
          have hstays := makeChain_of_isDirectory (isDirectory_of_lastStep hbelow hq hlast) above
          simp [hstays] at hagain
      have hdir : ¬ made.isDirectory p := by
        intro hdir
        obtain ⟨dir, c, hfound, -⟩ := lastStep_of_isDirectory hdir
        exact hlast dir c hfound
      cases hmake : made.makeDirectory p with
      | ok made' =>
        obtain ⟨dir, c, hfound⟩ := lastStep_of_makeDirectory hmake
        exact absurd hfound (hlast dir c)
      | error fault' => exact exists_fault_of_makeChain hne hagain hdir hmake
    · exact exists_fault_of_makeChain hne (makeChain_eq_none_again habove) hdir hmake

/-- Making directories again changes nothing and is refused when it was refused before. -/
theorem makeDirectories_again (w : Workspace) (p : Path) :
    ∃ failure, (w.makeDirectories p).1.makeDirectories p = ((w.makeDirectories p).1, failure) ∧
      failure.isSome = (w.makeDirectories p).2.isSome := by
  unfold makeDirectories
  cases h : w.makeChain (p :: p.above) with
  | mk made failure =>
    cases failure with
    | none => exact ⟨none, makeChain_eq_none_again h, rfl⟩
    | some fault =>
      obtain ⟨fault', hagain⟩ := makeChain_eq_fault_again p.descending_above h
      exact ⟨some fault', hagain, rfl⟩

end Again
end Workspace
end ClassTypings
