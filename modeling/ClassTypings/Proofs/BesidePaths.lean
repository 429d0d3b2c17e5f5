import ClassTypings.Proofs.DirectoriesAgain
import ClassTypings.Proofs.Paths
import ClassTypings.Proofs.Writes
/-!
# Paths beside a file

A path that leads to a file ends with the name of the file. The same name, joined to the path
above, leads to the file again, though the path above leaves out the pieces that say nothing.
-/
namespace ClassTypings
namespace Path

variable {p dir : Path} {name t first : Bytes} {front : List Bytes}

private theorem intercalate_concat (separator name : Bytes) (hfront : front ≠ []) :
    separator.intercalate (front ++ [name]) = separator.intercalate front ++ separator ++ name := by
  induction front with
  | nil => exact absurd rfl hfront
  | cons first front ih =>
    cases front with
    | nil => simp [List.intercalate_cons_cons]
    | cons next front =>
      have hrest := ih (List.cons_ne_nil _ _)
      simp only [List.cons_append, List.intercalate_cons_cons] at hrest ⊢
      rw [hrest]
      simp only [List.append_assoc]

private theorem bytes_of_pieces_concat (hp : p.pieces = front ++ [name]) (hfront : front ≠ []) :
    p.bytes = [Byte.slash].intercalate front ++ Byte.slash :: name := by
  rw [bytes_eq_intercalate p, hp, intercalate_concat _ _ hfront]
  simp

private theorem bytes_of_pieces_singleton (hp : p.pieces = [name]) : p.bytes = name := by
  rw [bytes_eq_intercalate p, hp, List.intercalate_singleton]

private theorem exists_pieces_join (dir : Path) (hslash : Byte.slash ∉ t) :
    ∃ front, (dir.join t).pieces = front ++ [t] := by
  obtain ⟨text⟩ := dir
  by_cases hdir : text = []
  · refine ⟨[], ?_⟩
    rw [hdir, join_nil hslash, List.nil_append]
    exact List.splitOn_eq_singleton hslash
  · obtain ⟨first, more, last, -, -, hjoin⟩ := pieces_join hdir hslash
    exact ⟨first :: more, hjoin⟩

private theorem exists_pieces_of_getLast? (hslash : p.endsWithSlash = false)
    (hlast : p.steps.getLast? = some (.name name)) : ∃ front, p.pieces = front ++ [name] := by
  rcases List.eq_nil_or_concat' p.pieces with hnil | ⟨front, last, hconcat⟩
  · exact absurd hnil (List.splitOn_ne_nil _ _)
  · refine ⟨front, ?_⟩
    have hne : last ≠ [] := by
      rintro rfl
      by_cases hfront : front = []
      · simp [steps, hconcat, hfront, Component.ofPiece?] at hlast
      · simp [endsWithSlash, bytes_of_pieces_concat hconcat hfront] at hslash
    obtain ⟨c, hpiece⟩ := Component.exists_ofPiece? hne
    obtain rfl : c = .name name := by simpa [steps, hconcat, hpiece] using hlast
    rw [hconcat, (Component.of_ofPiece?_eq_name hpiece).1]

/-- The path has these pieces, the root having a single empty one. -/
def SpelledBy (q : Path) (pieces : List Bytes) : Prop :=
  pieces ≠ [[]] ∧ q.bytes = [Byte.slash].intercalate pieces ∨ pieces = [[]] ∧ q.bytes = [Byte.slash]

/-- The nearest of the paths above keeps the pieces in front but for those at their end that say
nothing. -/
theorem exists_prefixes (first : Bytes) (rev : List Bytes) :
    ∃ q more kept idle, prefixes first rev = q :: more ∧ rev.reverse = kept ++ idle ∧
      (∀ piece ∈ idle, isIdle piece) ∧ q.SpelledBy (first :: kept) := by
  induction rev with
  | nil =>
    rw [prefixes]
    split
    · rename_i hroot
      rw [List.isEmpty_iff] at hroot
      exact ⟨_, _, [], [], rfl, rfl, List.forall_mem_nil _, .inr ⟨by rw [hroot], rfl⟩⟩
    · rename_i hfirst
      exact ⟨_, _, [], [], rfl, rfl, List.forall_mem_nil _,
        .inl ⟨by simpa using hfirst, List.intercalate_singleton.symm⟩⟩
  | cons piece rev ih =>
    rw [prefixes]
    split
    · rename_i hidle
      obtain ⟨q, more, kept, idle, hfound, hpieces, hidles, hspelled⟩ := ih
      refine ⟨q, more, kept, idle ++ [piece], hfound, ?_, ?_, hspelled⟩
      · rw [List.reverse_cons, hpieces, List.append_assoc]
      · intro piece' hpiece'
        rcases List.mem_append.mp hpiece' with hpiece' | hpiece'
        · exact hidles piece' hpiece'
        · exact List.mem_singleton.mp hpiece' ▸ hidle
    · exact ⟨_, _, _, [], rfl, by rw [List.append_nil], List.forall_mem_nil _, .inl ⟨by simp, rfl⟩⟩

section SpelledBy

variable {q : Path} {kept tail : List Bytes}

theorem SpelledBy.ne_nil (h : q.SpelledBy (first :: kept)) : q.bytes ≠ [] := by
  rcases h with ⟨hkept, hbytes⟩ | ⟨-, hbytes⟩
  · rw [hbytes]
    cases kept with
    | nil => simpa using hkept
    | cons next kept => simp [List.intercalate_cons_cons]
  · simp [hbytes]

private theorem SpelledBy.steps_eq (h : q.SpelledBy (first :: kept))
    (hp : p.pieces = first :: (kept ++ tail)) :
    q.steps = (first :: kept).filterMap Component.ofPiece? := by
  rcases h with ⟨-, hbytes⟩ | ⟨hkept, hbytes⟩
  · have hpieces := pieces_intercalate hp
    rw [steps, pieces, hbytes]
    exact congrArg (List.filterMap Component.ofPiece?) hpieces
  · rw [hkept, steps, pieces, hbytes]
    rfl

private theorem SpelledBy.length_join_le (h : q.SpelledBy (first :: kept))
    (hslash : Byte.slash ∉ name) :
    (q.join name).bytes.length ≤
      ([Byte.slash].intercalate (first :: kept)).length + (Byte.slash :: name).length := by
  rw [bytes_join h.ne_nil hslash, List.length_append]
  rcases h with ⟨-, hbytes⟩ | ⟨-, hbytes⟩
  · rw [hbytes]
    split
    · exact Nat.add_le_add_left (Nat.le_succ _) _
    · exact Nat.le_refl _
  · have hends : q.endsWithSlash := by simp [endsWithSlash, hbytes]
    rw [if_pos hends, hbytes, List.length_singleton, List.length_cons, Nat.add_comm]
    exact Nat.le_add_left ..

end SpelledBy

theorem above_of_pieces {piece : Bytes} {idle : List Bytes}
    (hp : p.pieces = first :: (front ++ piece :: idle)) (hbusy : isIdle piece = false)
    (hidle : ∀ other ∈ idle, isIdle other) : p.above = prefixes first front.reverse := by
  have hreverse : (front ++ piece :: idle).reverse = idle.reverse ++ piece :: front.reverse := by
    simp
  have hskip : ∀ other ∈ idle.reverse, isIdle other := fun other h =>
    hidle other (List.mem_reverse.mp h)
  simp [above, hp, hreverse, List.dropWhile_append_of_pos hskip, hbusy]

/-- What a path and the path above it have in common, the name at the end of the former being
`name`. -/
structure IsAbove (q p : Path) (name : Bytes) : Prop where
  liesBelow : p.LiesBelow q
  ne_nil : q.bytes ≠ []
  steps : ∃ idle, p.steps = q.steps ++ idle ++ [.name name] ∧ ∀ c ∈ idle, c = .here
  size : (q.join name).bytes.length ≤ p.bytes.length

private theorem exists_isAbove (hname : IsPlain name) (hp : p.pieces = first :: (front ++ [name])) :
    ∃ q, p.parent? = some q ∧ q.IsAbove p name := by
  obtain ⟨q, more, kept, idle, hfound, hfront, hidle, hspelled⟩ :=
    exists_prefixes first front.reverse
  rw [List.reverse_reverse] at hfront
  have habove : p.above = q :: more :=
    (above_of_pieces hp (isIdle_of_isPlain hname) nofun).trans hfound
  have hbelow : p.LiesBelow q := by
    have hdescending := p.descending_above
    rw [habove] at hdescending
    exact (List.isChain_cons_cons.mp hdescending).1 hspelled.ne_nil
  have hpieces : p.pieces = first :: (kept ++ (idle ++ [name])) := by
    rw [hp, hfront, List.append_assoc]
  refine ⟨q, by rw [parent?, habove, List.head?_cons], hbelow, hspelled.ne_nil, ?_, ?_⟩
  · -- the idle pieces in between are steps that stay
    refine ⟨idle.filterMap Component.ofPiece?, ?_, eq_here_of_isIdle hidle⟩
    rw [steps, hpieces, ← List.cons_append, List.filterMap_append, List.filterMap_append,
      hspelled.steps_eq hpieces, List.append_assoc]
    simp [Component.ofPiece?_of_isPlain hname]
  · have hle := hspelled.length_join_le hname.noSlash
    obtain ⟨rest, hrest⟩ := intercalate_prefix [Byte.slash] first kept idle
    rw [bytes_of_pieces_concat hp (List.cons_ne_nil _ _), hfront, ← hrest, List.length_append,
      List.length_append]
    omega

end Path

namespace Workspace

variable {w : Workspace} {tree : FileTree} {p : Path} {location last dir : Location}
  {cs : List Component} {content : Content} {name : Bytes}

private theorem eq_of_walk_here (hcs : ∀ c ∈ cs, c = .here) (h : walk tree location cs = .ok last) :
    last = location := by
  induction cs with
  | nil => exact (Except.ok.inj h).symm
  | cons c cs ih =>
    obtain rfl := hcs c List.mem_cons_self
    obtain ⟨-, next, hstep, hrest⟩ := walk_cons_eq_ok_iff.mp h
    obtain rfl := Except.ok.inj hstep
    exact ih (fun c hc => hcs c (List.mem_cons_of_mem _ hc)) hrest

/-- A path to a file ends with the step to its name, since every other step comes to a
directory. -/
theorem lastStep_of_file (hlocate : w.locate p = .ok location)
    (hfile : w.tree.node? location = some (.file content)) :
    ∃ dir name, location = name :: dir ∧ w.lastStep p = .ok (dir, some (.name name)) ∧
      p.endsWithSlash = false ∧ name.length ≤ maxNameSize := by
  obtain ⟨hspelling, hwalk, hends⟩ := locate_eq_ok_iff.mp hlocate
  have hnot : w.tree.node? location ≠ some .directory := by simp [hfile]
  have hslash : p.endsWithSlash = false := by
    rw [← Bool.not_eq_true]
    exact fun h => hnot (hends h)
  rcases List.eq_nil_or_concat' p.steps with hnil | ⟨front, c, hconcat⟩
  · obtain ⟨-, hne, -⟩ := spellingFault?_eq_none_iff.mp hspelling
    have habsolute := Path.isAbsolute_of_steps_nil hne hnil
    rw [hnil, start, if_pos habsolute] at hwalk
    obtain rfl := Except.ok.inj hwalk
    exact absurd rfl hnot
  · rw [hconcat] at hwalk
    obtain ⟨dir, hfront, hdir, hstep⟩ := walk_concat_eq_ok_iff.mp hwalk
    cases c with
    | root =>
      obtain rfl := Except.ok.inj hstep
      exact absurd rfl hnot
    | here =>
      obtain rfl := Except.ok.inj hstep
      exact absurd hdir hnot
    | up =>
      obtain rfl := Except.ok.inj hstep
      cases dir with
      | nil => exact absurd rfl hnot
      | cons name dir => exact absurd (FileTree.isDirectory_of_node? hdir).2 hnot
    | name name =>
      by_cases hlong : maxNameSize < name.length
      · simp [step, hlong] at hstep
      · rw [step_name_of_size (Nat.not_lt.mp hlong)] at hstep
        obtain rfl := Except.ok.inj hstep
        refine ⟨dir, name, rfl, lastStep_eq_ok_iff.mpr ⟨hspelling, ?_, hdir, ?_⟩, hslash,
          Nat.not_lt.mp hlong⟩
        · rwa [hconcat, List.dropLast_concat]
        · rw [hconcat, List.getLast?_concat]

theorem exists_pieces_of_file (hlocate : w.locate p = .ok (name :: dir))
    (hfile : w.tree.node? (name :: dir) = some (.file content)) :
    ∃ front, p.pieces = front ++ [name] := by
  obtain ⟨dir', name', hsame, hlast, hslash, -⟩ := lastStep_of_file hlocate hfile
  obtain ⟨rfl, rfl⟩ := List.cons.inj hsame
  obtain ⟨-, -, -, hend⟩ := lastStep_eq_ok_iff.mp hlast
  exact Path.exists_pieces_of_getLast? hslash hend

theorem eq_of_locate_join {t : Bytes} (hslash : Byte.slash ∉ t) {q : Path}
    (hlocate : w.locate (q.join t) = .ok (name :: dir))
    (hfile : w.tree.node? (name :: dir) = some (.file content)) : t = name := by
  obtain ⟨front, hfront⟩ := exists_pieces_of_file hlocate hfile
  obtain ⟨before, hbefore⟩ := Path.exists_pieces_join q hslash
  have hpiece := congrArg List.getLast? (hbefore.symm.trans hfront)
  simpa using hpiece

theorem locate_parent_join (hlocate : w.locate p = .ok (name :: dir))
    (hfile : w.tree.node? (name :: dir) = some (.file content)) :
    w.locate ((p.parent?.getD ⟨[Byte.dot]⟩).join name) = .ok (name :: dir) := by
  obtain ⟨front, hpieces⟩ := exists_pieces_of_file hlocate hfile
  obtain ⟨hname, hdir⟩ := FileTree.isDirectory_of_node? hfile
  obtain ⟨hplain, hnul, -⟩ := isName_iff.mp hname
  obtain ⟨dir', name', hsame, hlast, -⟩ := lastStep_of_file hlocate hfile
  obtain ⟨rfl, rfl⟩ := List.cons.inj hsame
  obtain ⟨hspelling, -, hwalk, -⟩ := lastStep_eq_name hlast
  cases front with
  | nil =>
    have hself : (⟨[]⟩ : Path).join name = p := by
      rw [Path.join_nil hplain.noSlash, ← Path.bytes_of_pieces_singleton hpieces]
    have habove : p.parent? = some ⟨[]⟩ := by
      simp [Path.parent?, Path.above, hpieces, hplain.ne_nil]
    rwa [habove, Option.getD_some, hself]
  | cons first front =>
    obtain ⟨q, hparent, habove⟩ := Path.exists_isAbove hplain hpieces
    obtain ⟨idle, hsteps, hidle⟩ := habove.steps
    rw [hsteps, List.dropLast_concat, habove.liesBelow.start habove.ne_nil,
      walk_append_eq_ok_iff] at hwalk
    obtain ⟨mid, hfront, hback⟩ := hwalk
    obtain rfl := eq_of_walk_here hidle hback
    have hspellingAbove := habove.liesBelow.spelling habove.ne_nil hspelling
    have hleads : w.Leads q dir :=
      ⟨locate_eq_ok_iff.mpr ⟨hspellingAbove, hfront, fun _ => hdir⟩, hdir⟩
    rw [hparent, Option.getD_some]
    refine hleads.locate_join hname (spellingFault?_eq_none_iff.mpr ⟨?_, ?_, ?_⟩)
    · rw [Path.mem_bytes_join habove.ne_nil hplain.noSlash (by decide), not_or]
      exact ⟨(spellingFault?_eq_none_iff.mp hspellingAbove).1, hnul⟩
    · simp [Path.bytes_join habove.ne_nil hplain.noSlash, habove.ne_nil]
    · exact Nat.le_trans habove.size (spellingFault?_eq_none_iff.mp hspelling).2.2

end Workspace

/-- The output of an input has the name of the input when it only puts its extension in the place
of the same one and the stem is a text. -/
theorem outputName_eq_iff_of_fileName {p : Path} {name : Bytes} {suffix extension : Text}
    (hname : p.fileName? = some name) (hne : name ≠ []) :
    (outputName p suffix extension).bytes = name ↔
      suffix = [] ∧ p.extension? = some extension.bytes ∧ ∃ stem : Text, p.stem? = some stem.bytes := by
  have hextension : p.extension? = (Path.splitName name).2 := by simp [Path.extension?, hname]
  have hstem : p.stem? = some (Path.splitName name).1 := by simp [Path.stem?, hname]
  have hshown : shownStem p = Bytes.text (Path.splitName name).1 := by simp [shownStem, hstem]
  have houtput : outputName p suffix extension = shownStem p ++ (suffix ++ '.' :: extension) :=
    List.append_assoc ..
  rw [hextension, hstem]
  rcases (Path.splitName_spec hne).2 with ⟨hnone, hwhole⟩ | ⟨ext, hsome, hext, hsplit⟩
  · rw [hnone]
    refine iff_of_false (fun h => ?_) (by simp)
    have hshorter := congrArg (List.length ∘ Bytes.text) h
    rw [hwhole] at hshown
    simp [Function.comp, Bytes.text_bytes, houtput, hshown] at hshorter
  · rw [hsome, Option.some.injEq]
    constructor
    · intro h
      obtain ⟨u, v, hcut, hu, rfl⟩ := Text.exists_of_bytes_eq (by decide) (h.trans hsplit)
      rw [houtput, hshown, ← hu, Bytes.text_bytes] at hcut
      have hdot : '.' ∉ v := (Text.mem_bytes_iff (by decide) v).not.mp hext
      cases suffix with
      | nil => exact ⟨rfl, by rw [(List.cons.inj (List.append_cancel_left hcut)).2], u, by rw [hu]⟩
      | cons c suffix =>
        have hrest := (List.cons.inj (List.append_cancel_left hcut)).2
        exact absurd (hrest ▸ by simp) hdot
    · rintro ⟨rfl, rfl, stem, hbytes⟩
      rw [Option.some.injEq] at hbytes
      rw [houtput, hshown, hbytes, Bytes.text_bytes, Text.bytes_append, hsplit, hbytes]
      exact congrArg _ (Text.bytes_cons (by decide) extension)

end ClassTypings
