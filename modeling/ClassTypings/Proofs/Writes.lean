import ClassTypings.Batch
import ClassTypings.Proofs.NewDirectories
/-!
# Writes and reports

A path that was written leads to what was written. A conversion is reported as written exactly when
its output holds the declaration, since the two lines that report it are never the same.
-/
namespace ClassTypings
namespace Workspace

variable {w w' : Workspace} {p : Path} {content : Content}

/-- The file at a path holds exactly a text. -/
def Holds (w : Workspace) (p : Path) (text : Text) : Prop := w.node? p = .ok (.file (.text text))

/-- The text that a path leads to. What is no readable text counts as the empty one. -/
def textAt (w : Workspace) (p : Path) : Text :=
  match w.node? p with
  | .ok (.file (.text text)) => text
  | _ => []

/-- The declaration for what a path leads to. -/
def declarationAt (w : Workspace) (config : Config) (p : Path) : Text :=
  declarationOf config (w.textAt p)

theorem textAt_of_holds {text : Text} (h : w.Holds p text) : w.textAt p = text := by
  simp only [textAt, show w.node? p = _ from h]

theorem put_eq_ok (h : w.put p content = .ok w') :
    ∃ dir name, w.lastStep p = .ok (dir, some (.name name)) ∧ p.endsWithSlash = false ∧
      name.length ≤ maxNameSize ∧ w.tree.node? (name :: dir) ≠ some .directory ∧
      w' = { w with tree := w.tree.place name dir (.file content) } := by
  unfold put at h
  split at h
  · simp at h
  · rename_i dir name hlast
    split at h
    · simp at h
    · rename_i hslash
      split at h
      · simp at h
      · rename_i hlong
        split at h
        · simp at h
        · rename_i hfree
          refine ⟨dir, name, hlast, by simpa using hslash, Nat.not_lt.mp hlong, hfree, ?_⟩
          exact (Except.ok.inj h).symm
  · simp at h

theorem locate_of_lastStep_file {dir : Location} {name : Bytes}
    (hlast : w.lastStep p = .ok (dir, some (.name name))) (hslash : p.endsWithSlash = false)
    (hsize : name.length ≤ maxNameSize) : w.locate p = .ok (name :: dir) := by
  obtain ⟨hspelling, hsteps, hwalk, hdir⟩ := lastStep_eq_name hlast
  refine locate_eq_ok_iff.mpr ⟨hspelling, ?_, by simp [hslash]⟩
  rw [hsteps]
  exact walk_concat_eq_ok_iff.mpr ⟨dir, hwalk, hdir, step_name_of_size hsize⟩

private theorem node?_of_put (h : w.put p content = .ok w') : w'.node? p = .ok (.file content) := by
  obtain ⟨dir, name, hlast, hslash, hsize, hfree, rfl⟩ := put_eq_ok h
  obtain ⟨-, -, -, hdir⟩ := lastStep_eq_name hlast
  have hmay : w.tree.MayPlace name dir (.file content) := by
    refine ⟨isName_of_lastStep hlast hsize, hdir, ?_⟩
    cases hnode : w.tree.node? (name :: dir) with
    | none => trivial
    | some node =>
      cases node with
      | file content' => trivial
      | directory => exact absurd hnode hfree
  have hkept : w.DirectoriesIn { w with tree := w.tree.place name dir (.file content) } :=
    ⟨rfl, FileTree.directoriesIn_place _ _ _ _⟩
  have hlocate := hkept.locate (locate_of_lastStep_file hlast hslash hsize)
  rw [node?_eq_ok_iff_of_locate hlocate, FileTree.node?_place, if_pos ⟨hmay, rfl⟩]

theorem holds_of_write {text : Text} (h : w.write p text = .ok w') : w'.Holds p text :=
  node?_of_put h

theorem read_eq_ok_iff {text : Text} : w.read p = .ok text ↔ w.Holds p text := by
  unfold read Holds
  split <;> simp_all

end Workspace

namespace Text

/-- A text that goes on after `u` as it begins is `u` again and again, with a beginning of `u` at
its end. -/
private theorem append_ne_append {u ending : Text} (hne : u ≠ [])
    (hfree : ∀ n < u.length, ¬ ending <:+ u ++ u.take n) (t v : Text) :
    t ++ (v ++ ending) ≠ u ++ t := by
  induction hn : t.length using Nat.strongRecOn generalizing t with
  | ind n ih =>
    intro h
    have hprefix : t <+: u ++ t := ⟨_, h⟩
    by_cases hlt : t.length < u.length
    · have hbeginning : t <+: u :=
        List.prefix_of_prefix_length_le hprefix (List.prefix_append u t) (Nat.le_of_lt hlt)
      have hending : ending <:+ u ++ t := ⟨t ++ v, by rw [← h, List.append_assoc]⟩
      rw [List.prefix_iff_eq_take.mp hbeginning] at hending
      exact hfree _ hlt hending
    · have hfront : u <+: t :=
        List.prefix_of_prefix_length_le (List.prefix_append u t) hprefix (Nat.le_of_not_lt hlt)
      obtain ⟨rest, rfl⟩ := hfront
      have hpos := List.length_pos_iff.mpr hne
      rw [List.append_assoc, List.append_cancel_left_eq] at h
      refine ih rest.length ?_ rest rfl h
      rw [← hn, List.length_append]
      omega

end Text

theorem writtenLine_ne_unwrittenLine (output : Path) (suffix : Text) :
    writtenLine output suffix ≠ unwrittenLine output := by
  have hfree : ∀ n < "OOPS: could not create ".toList.length, ¬ " created".toList <:+
      "OOPS: could not create ".toList ++ "OOPS: could not create ".toList.take n := by decide
  unfold writtenLine unwrittenLine
  rw [List.append_assoc]
  exact Text.append_ne_append (by decide) hfree output.text suffix

theorem Attempt.status_eq_writtenLine_iff {a : Attempt} {config : Config} {output : Path} :
    a.status config output = writtenLine output config.suffix ↔ a.failure = none := by
  unfold Attempt.status
  split
  · rename_i hnone
    exact iff_of_true rfl hnone
  · rename_i hsome
    exact iff_of_false (writtenLine_ne_unwrittenLine output config.suffix).symm (by simp [hsome])

namespace Session

variable {s : Session} {config : Config} {input output : Path}

theorem textOf_eq_textAt (s : Session) (input : Path) :
    s.textOf input = s.workspace.textAt input := by
  unfold textOf Workspace.read Workspace.textAt
  cases s.workspace.node? input with
  | error fault => rfl
  | ok node =>
    cases node with
    | directory => rfl
    | file content => cases content <;> rfl

theorem write_cases {s' : Session} {text : Text} (h : s.write output text = .ok s') :
    (s.destination = .files ∧ ∃ w, s.workspace.write output text = .ok w ∧
      s' = { s with workspace := w, accepted := s.accepted ++ [(output, text)] }) ∨
    (s.destination ≠ .files ∧ s' = { s with accepted := s.accepted ++ [(output, text)] }) := by
  cases hdestination : s.destination with
  | files =>
    simp only [write, hdestination] at h
    split at h
    · simp at h
    · rename_i w hwrite
      exact .inl ⟨rfl, w, hwrite, (Except.ok.inj h).symm⟩
  | memory refusal =>
    simp only [write, hdestination] at h
    split at h
    · simp at h
    · exact .inr ⟨nofun, (Except.ok.inj h).symm⟩

private theorem write_destination {s' : Session} {text : Text} (h : s.write output text = .ok s') :
    s'.destination = s.destination := by
  rcases write_cases h with ⟨-, w, -, rfl⟩ | ⟨-, rfl⟩ <;> rfl

theorem workspace_write {s' : Session} {text : Text} (hfiles : s.destination = .files)
    (h : s.write output text = .ok s') : s.workspace.write output text = .ok s'.workspace := by
  rcases write_cases h with ⟨-, w, hwrite, rfl⟩ | ⟨hmemory, -⟩
  · exact hwrite
  · exact absurd hfiles hmemory

/-- An attempt is a write of the declaration. When the write is refused, nothing changes. -/
theorem attempt_cases (s : Session) (config : Config) (input output : Path) :
    (∃ s', s.write output (s.workspace.declarationAt config input) = .ok s' ∧
      (s.attempt config input output).session = s' ∧
      (s.attempt config input output).failure = none) ∨
    ∃ fault, (s.attempt config input output).session = s ∧
      (s.attempt config input output).failure = some (.unwritable output fault) := by
  rw [Workspace.declarationAt, ← textOf_eq_textAt]
  cases hwrite : s.write output (declarationOf config (s.textOf input)) with
  | ok s' => exact .inl ⟨s', rfl, by simp [attempt, hwrite], by simp [attempt, hwrite]⟩
  | error fault => exact .inr ⟨fault, by simp [attempt, hwrite], by simp [attempt, hwrite]⟩

private theorem attempt_destination (s : Session) (config : Config) (input output : Path) :
    (s.attempt config input output).session.destination = s.destination := by
  rcases attempt_cases s config input output with ⟨s', hwrite, hsession, -⟩ | ⟨fault, hsession, -⟩
  · rw [hsession]
    exact write_destination hwrite
  · rw [hsession]

theorem holds_of_attempt (hfiles : s.destination = .files)
    (h : (s.attempt config input output).failure = none) :
    (s.attempt config input output).session.workspace.Holds output
      (s.workspace.declarationAt config input) := by
  rcases attempt_cases s config input output with ⟨s', hwrite, hsession, -⟩ | ⟨fault, -, hfailure⟩
  · rw [hsession]
    exact Workspace.holds_of_write (workspace_write hfiles hwrite)
  · simp [hfailure] at h

end Session

namespace Batch

variable {config : Config} {target input : Path} {extension : Text} {b : Batch}

theorem turn_destination :
    (b.turn config target extension input).session.destination = b.session.destination := by
  simp only [turn]
  split
  · rfl
  · exact Session.attempt_destination _ _ _ _

theorem foldl_turn_destination (inputs : List Path) :
    (inputs.foldl (turn config target extension) b).session.destination =
      b.session.destination := by
  induction inputs generalizing b with
  | nil => rfl
  | cons input inputs ih => rw [List.foldl_cons, ih, turn_destination]

end Batch

theorem TreeJob.convertAll_concat (job : TreeJob) (config : Config) (w : Workspace)
    (before : List Path) (input : Path) :
    job.convertAll config w (before ++ [input]) =
      (job.convertAll config w before).turn config job.target job.extension input := by
  simp only [convertAll, List.foldl_append, List.foldl_cons, List.foldl_nil]

end ClassTypings
