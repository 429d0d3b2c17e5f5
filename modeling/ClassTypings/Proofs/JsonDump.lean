import ClassTypings.Proofs.JsonGrammar
import ClassTypings.Proofs.Places
import ClassTypings.Proofs.Routes
import Mathlib.Data.List.Forall2
import Mathlib.Data.List.TakeWhile
/-!
# Dumps read back

The dump of an interface is a JSON text, and its value holds the name, the parents and the members
as they are. So different interfaces have different dumps.
-/
namespace ClassTypings

namespace Json

private theorem skip_append {space : Text} (h : ∀ c ∈ space, isSpace c) (t : Text) :
    skip (space ++ t) = skip t := List.dropWhile_append_of_pos h

private theorem skip_newline (depth : Nat) (t : Text) : skip (newline depth ++ t) = skip t := by
  refine skip_append (fun c hc => ?_) t
  rcases List.mem_cons.mp hc with rfl | hc
  · rfl
  · rw [(List.mem_replicate.mp hc).2]
    rfl

private theorem skip_cons {c : Char} (h : ¬ isSpace c) (t : Text) : skip (c :: t) = c :: t :=
  List.dropWhile_cons_of_neg h

section strings

private theorem hexDigit?_digitChar : ∀ d < 16, hexDigit? (Nat.digitChar d) = some d := by decide

/-- A control is spelled by its number, which is smaller than the halves of characters. -/
private theorem unitChar?_control {c : Char} (h : c.toNat < 32) (rest : Text) :
    unitChar? ('0' :: '0' :: Nat.digitChar (c.toNat / 16) :: Nat.digitChar (c.toNat % 16) :: rest) =
      some (c, rest) := by
  have hzero : hexDigit? '0' = some 0 := by decide
  have hfirst := hexDigit?_digitChar (c.toNat / 16) (by omega)
  have hsecond := hexDigit?_digitChar (c.toNat % 16) (by omega)
  have hunit : unit? ('0' :: '0' :: Nat.digitChar (c.toNat / 16) ::
      Nat.digitChar (c.toNat % 16) :: rest) = some (c.toNat, rest) := by
    simp only [unit?, hzero, hfirst, hsecond, Option.bind_eq_bind, Option.bind_some,
      Option.some.injEq, Prod.mk.injEq, and_true]
    omega
  have hhigh : isHighHalf c.toNat = false := by
    simp only [isHighHalf, Bool.and_eq_false_iff, decide_eq_false_iff_not]
    omega
  have hlow : isLowHalf c.toNat = false := by
    simp only [isLowHalf, Bool.and_eq_false_iff, decide_eq_false_iff_not]
    omega
  simp [unitChar?, hunit, hhigh, hlow]

private theorem char?_stringChar (c : Char) (rest : Text) :
    char? (stringChar c ++ rest) = some (c, rest) := by
  unfold stringChar
  split
  · rfl
  · rfl
  · rfl
  · rfl
  · rfl
  · rfl
  · rfl
  · rename_i hquote hbackslash _ _ _ _ _
    split
    · rename_i hcontrol
      exact unitChar?_control hcontrol rest
    · rename_i hcontrol
      rw [List.singleton_append, char?]
      · apply if_neg
        rintro (hc | hc | hc)
        · exact hquote hc
        · exact hbackslash hc
        · exact hcontrol hc
      · intro _ hc _
        exact hbackslash hc
      · intro _ _ hc _
        exact hbackslash hc

private theorem chars?_flatMap (t rest : Text) :
    chars? (t.flatMap stringChar ++ '"' :: rest) = some (t, rest) := by
  induction t with
  | nil =>
    have hquote : char? ('"' :: rest) = none := rfl
    rw [List.flatMap_nil, List.nil_append, chars?]
    split
    · rename_i h
      rw [hquote] at h
      simp at h
    · simp [Text.after?]
  | cons c t ih =>
    have hread := char?_stringChar c (t.flatMap stringChar ++ '"' :: rest)
    rw [List.flatMap_cons, List.append_assoc, chars?]
    split
    · rename_i h
      rw [hread] at h
      obtain ⟨rfl, rfl⟩ := Prod.mk.inj (Option.some.inj h)
      rw [ih]
      rfl
    · rename_i h
      rw [hread] at h
      simp at h

private theorem string_append (t rest : Text) :
    string t ++ rest = '"' :: (t.flatMap stringChar ++ '"' :: rest) := by
  simp [string]

private theorem string?_string (t rest : Text) : string? (string t ++ rest) = some (t, rest) := by
  rw [string_append, string?]
  exact chars?_flatMap t rest

end strings

/-- The text spells the item, whatever stands behind it, and starts with no blank. -/
structure Spells (i : Item) (a : i.Meaning) (text : Text) : Prop where
  skip_eq : ∀ rest, skip (text ++ rest) = text ++ rest
  reads : ∀ rest, Reads (.one i) a (text ++ rest) rest

private theorem spells_string (t : Text) : Spells .value (.string t) (string t) := by
  refine ⟨fun rest => ?_, fun rest => .scalar ?_⟩
  · rw [string_append]
    exact skip_cons (by decide) _
  · simp [scalar?, string?_string]

private theorem spells_field (name : Text) {v : Value} {text : Text} (h : Spells .value v text) :
    Spells .field (name, v) (field name text) := by
  have hfield : ∀ rest, field name text ++ rest = string name ++ ':' :: ' ' :: (text ++ rest) := by
    simp [field]
  refine ⟨fun rest => ?_, fun rest => ?_⟩
  · rw [hfield, string_append]
    exact skip_cons (by decide) _
  · have hspace : skip (' ' :: (text ++ rest)) = text ++ rest := h.skip_eq rest
    rw [hfield]
    refine .field (string?_string name _) (w := ' ' :: (text ++ rest)) ?_ ?_
    · rw [skip_cons (by decide)]
      simp [Text.after?]
    · rw [hspace]
      exact h.reads rest

section series

variable {i : Item} {as : List i.Meaning} {texts : List Text}

private theorem reads_close (depth : Nat) (rest : Text) :
    skip (newline depth ++ i.close :: rest) = i.close :: rest := by
  rw [skip_newline]
  exact skip_cons (by cases i <;> decide) rest

private theorem reads_further (h : List.Forall₂ (Spells i) as texts) (depth : Nat) (rest : Text) :
    Reads (.further i) as
      (skip (texts.flatMap ((',' :: newline (depth + 1)) ++ ·) ++
        (newline depth ++ i.close :: rest))) rest := by
  induction h with
  | nil =>
    rw [List.flatMap_nil, List.nil_append, reads_close]
    exact .last (Text.after?_append [i.close] rest)
  | @cons a text as texts hitem _ ih =>
    let later := texts.flatMap ((',' :: newline (depth + 1)) ++ ·) ++
      (newline depth ++ i.close :: rest)
    have hsplit : (text :: texts).flatMap ((',' :: newline (depth + 1)) ++ ·) ++
        (newline depth ++ i.close :: rest) = ',' :: (newline (depth + 1) ++ (text ++ later)) := by
      simp [later]
    have hhere : Reads (.one i) a (skip (newline (depth + 1) ++ (text ++ later))) later := by
      rw [skip_newline, hitem.skip_eq]
      exact hitem.reads later
    rw [hsplit, skip_cons (by decide)]
    exact .next (Text.after?_append [','] _) hhere ih

private theorem reads_all (h : List.Forall₂ (Spells i) as texts) (hne : as ≠ []) (depth : Nat)
    (rest : Text) :
    Reads (.all i) as
      (skip (newline (depth + 1) ++ (',' :: newline (depth + 1)).intercalate texts ++
        newline depth ++ i.close :: rest)) rest := by
  cases h with
  | nil => exact absurd rfl hne
  | @cons a text as texts hitem hitems =>
    rw [Text.intercalate_cons, List.append_assoc, List.append_assoc, List.append_assoc,
      skip_newline, hitem.skip_eq]
    exact .some (hitem.reads _) (reads_further hitems depth rest)

end series

private theorem bracketed_append (first last : Char) (opening items closing rest : Text) :
    (first :: opening ++ items ++ closing ++ [last]) ++ rest =
      first :: (opening ++ items ++ closing ++ last :: rest) := by
  simp

private theorem spells_stringList (depth : Nat) (ts : List Text) :
    Spells .value (.list (ts.map .string)) (stringList depth ts) := by
  unfold stringList
  split
  · rename_i hempty
    obtain rfl := List.isEmpty_iff.mp hempty
    refine ⟨fun rest => skip_cons (by decide) _, fun rest => ?_⟩
    refine .list (Text.after?_append ['['] (']' :: rest)) ?_
    rw [skip_cons (by decide)]
    exact .none (Text.after?_append [']'] rest)
  · rename_i hne
    have hitems : List.Forall₂ (Spells .value) (ts.map Value.string) (ts.map string) := by
      rw [List.forall₂_map_left_iff, List.forall₂_map_right_iff, List.forall₂_same]
      exact fun t _ => spells_string t
    have hsome : ts.map Value.string ≠ [] := by simpa using hne
    refine ⟨fun rest => skip_cons (by decide) _, fun rest => ?_⟩
    rw [bracketed_append]
    exact .list (Text.after?_append ['['] _) (reads_all hitems hsome depth rest)

end Json

namespace Interface

/-- The interface as a value: an object of three fields. -/
def jsonValue (i : Interface) : Json.Value :=
  .object [("name".toList, .string i.name), ("extends".toList, .list (i.parents.map .string)),
    ("properties".toList, .list (i.members.map .string))]

private theorem spells_toJson (i : Interface) : Json.Spells .value i.jsonValue i.toJson := by
  have hfields : List.Forall₂ (Json.Spells .field)
      [("name".toList, .string i.name), ("extends".toList, .list (i.parents.map .string)),
        ("properties".toList, .list (i.members.map .string))]
      [Json.field "name".toList (Json.string i.name),
        Json.field "extends".toList (Json.stringList 1 i.parents),
        Json.field "properties".toList (Json.stringList 1 i.members)] :=
    .cons (Json.spells_field _ (Json.spells_string i.name))
      (.cons (Json.spells_field _ (Json.spells_stringList 1 i.parents))
        (.cons (Json.spells_field _ (Json.spells_stringList 1 i.members)) .nil))
  refine ⟨fun rest => Json.skip_cons (by decide) _, fun rest => ?_⟩
  rw [toJson, Json.bracketed_append]
  exact .object (Text.after?_append ['\x7b'] _)
    (Json.reads_all hfields (List.cons_ne_nil _ _) 0 rest)

/-- A dump means its interface alone, also with blanks behind it. -/
private theorem means_toJson_append_iff (i : Interface) {space : Text}
    (hspace : ∀ c ∈ space, Json.isSpace c) {v : Json.Value} :
    Json.Means (i.toJson ++ space) v ↔ v = i.jsonValue := by
  have hend : Json.skip space = [] := List.dropWhile_eq_nil_iff.mpr hspace
  have hmeans : Json.Means (i.toJson ++ space) i.jsonValue := by
    refine ⟨space, ?_, hend⟩
    rw [i.spells_toJson.skip_eq]
    exact i.spells_toJson.reads space
  constructor
  · intro hv
    exact hv.unique hmeans
  · rintro rfl
    exact hmeans

private theorem means_toJson_iff (i : Interface) {v : Json.Value} :
    Json.Means i.toJson v ↔ v = i.jsonValue := by
  have hnone : ∀ c ∈ ([] : Text), Json.isSpace c := by simp
  simpa using i.means_toJson_append_iff hnone

private theorem jsonValue_injective {i j : Interface} (h : i.jsonValue = j.jsonValue) : i = j := by
  have hstring : Function.Injective Json.Value.string := fun _ _ => Json.Value.string.inj
  simp only [jsonValue, Json.Value.object.injEq, List.cons.injEq, Prod.mk.injEq, true_and, and_true,
    Json.Value.string.injEq, Json.Value.list.injEq] at h
  obtain ⟨hname, hparents, hmembers⟩ := h
  rw [Interface.mk.injEq]
  exact ⟨hname, List.map_injective_iff.mpr hstring hparents,
    List.map_injective_iff.mpr hstring hmembers⟩

/-- A dump is a JSON text with one meaning: an object of the three fields, which hold the name, the
parents and the members character by character. So it determines the interface. A job that only
dumps prints the dump of the interface of its input and nothing else but blanks. -/
theorem toJson_faithful (i : Interface) :
    (∀ v, Json.Means i.toJson v ↔
      v = .object [("name".toList, .string i.name),
        ("extends".toList, .list (i.parents.map .string)),
        ("properties".toList, .list (i.members.map .string))]) ∧
    (∀ j : Interface, j.toJson = i.toJson → j = i) ∧
    ∀ (job : FileJob) (env : Environment) (w : Workspace), job.dump → ¬ job.print →
      job.output = none → interfaceOf (job.config env) (w.textAt job.input) = i →
      ∀ v, Json.Means (job.run env w).stdout v ↔ v = i.jsonValue := by
  refine ⟨fun v => i.means_toJson_iff, fun j heq => ?_, ?_⟩
  · have hj : Json.Means i.toJson j.jsonValue := heq ▸ j.means_toJson_iff.mpr rfl
    exact jsonValue_injective (i.means_toJson_iff.mp hj)
  · intro job env w hdump hprint houtput hi v
    have hwrites : job.writes = false := by
      rw [Bool.eq_false_iff]
      intro hwrites
      simpa [houtput] using (FileJob.writes_iff.mp hwrites).2 hdump
    have hstdout : (job.run env w).stdout = i.toJson ++ ['\n'] := by
      rw [(FileJob.run_of_not_writes env w hwrites).2, FileJob.dumpText_of_dump hdump, hi,
        if_neg hprint, List.append_nil]
    rw [hstdout]
    exact i.means_toJson_append_iff (List.forall_mem_singleton.mpr rfl)

/-- A quote, a newline and another control are escaped; the rest stands for itself. -/
example : ({ name := "a\"\n\x01é".toList, parents := ["B".toList] } : Interface).toJson =
    ("\x7b\n  \"name\": \"a\\\"\\n\\u0001é\",\n  \"extends\": [\n    \"B\"\n  ],\n".toList ++
      "  \"properties\": []\n\x7d".toList) := by decide

/-- The dump of an input that is missing. -/
theorem toJson_faithful_missing :
    let job : FileJob := { input := "User.php", dump := true }
    (job.dump ∧ ¬ job.print ∧ job.output = none) ∧
      Json.Means (job.run (fun _ => none) ⟨.empty, []⟩).stdout
        (.object [("name".toList, .string []), ("extends".toList, .list []),
          ("properties".toList, .list [])]) := by
  intro job
  have hempty : interfaceOf (job.config fun _ => none)
      ((⟨.empty, []⟩ : Workspace).textAt job.input) = {} := by decide +kernel
  obtain ⟨-, -, hrun⟩ := toJson_faithful {}
  refine ⟨by decide, ?_⟩
  exact (hrun job (fun _ => none) ⟨.empty, []⟩ rfl (by decide) rfl hempty _).mpr rfl

end Interface
end ClassTypings
