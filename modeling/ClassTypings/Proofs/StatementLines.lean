import ClassTypings.Proofs.Access
/-!
# Statements that look like property lines

The rule for property lines takes any word of small letters for a modifier. So a statement of three
words is read as a property: here stand the statements that are read, and what they change in an
interface.
-/
namespace ClassTypings

namespace Outline

section

variable {α β : Type}

private theorem append_eq_iff_of_sublist {a a' b b' : List α} (ha : a.Sublist a')
    (hb : b.Sublist b') : a ++ b = a' ++ b' ↔ a = a' ∧ b = b' := by
  constructor
  · intro h
    have hlength := congrArg List.length h
    simp only [List.length_append] at hlength
    have := ha.length_le
    have := hb.length_le
    exact ⟨ha.eq_of_length (by omega), hb.eq_of_length (by omega)⟩
  · rintro ⟨rfl, rfl⟩
    rfl

private theorem flatMap_filter_eq_iff {q : α → Bool} {f : α → List β} {xs : List α} :
    (xs.filter q).flatMap f = xs.flatMap f ↔ ∀ x ∈ xs, ¬ q x → f x = [] := by
  induction xs with
  | nil => simp
  | cons x xs ih =>
    have hrest : ((xs.filter q).flatMap f).Sublist (xs.flatMap f) :=
      List.filter_sublist.flatMap f
    rw [List.forall_mem_cons, ← ih]
    cases hx : q x with
    | true => simp [hx]
    | false =>
      have hall := append_eq_iff_of_sublist (List.nil_sublist (f x)) hrest
      simpa [hx, eq_comm] using hall

private theorem closing_filter_eq_iff {o : Outline} {xs : List α} {f : α → Property}
    (h : o.properties = xs.map f) (q : α → Bool) (marks : CollectionMarks) :
    { o with properties := (xs.filter q).map f : Outline }.closing marks = o.closing marks ↔
      (o.isCollection → marks = .once → (∀ x ∈ xs, q x) ∨ ∃ x ∈ xs, q x) := by
  let o' : Outline := { o with properties := (xs.filter q).map f }
  have hempty : xs = [] ∨ (∃ x ∈ xs, q x) ↔ (∀ x ∈ xs, q x) ∨ ∃ x ∈ xs, q x := by
    cases xs with
    | nil => simp
    | cons x xs =>
      by_cases hx : q x
      · simp [hx]
      · simp [hx]
  have hsame : o'.isCollection = o.isCollection := rfl
  have hsome : o'.properties = [] ↔ ¬ ∃ x ∈ xs, q x := by simp [o']
  have hnone : o.properties = [] ↔ xs = [] := by simp [h]
  show o'.closing marks = o.closing marks ↔ _
  rw [← hempty]
  cases hc : o.isCollection with
  | false => simp [closing, hsame, hc]
  | true =>
    cases marks with
    | each => simp [closing]
    | once =>
      by_cases hx : ∃ x ∈ xs, q x
      · have hne : xs ≠ [] := by
          rintro rfl
          simp at hx
        simp [closing, hsame, hc, hsome, hnone, hx, hne]
      · by_cases hxs : xs = [] <;> simp [closing, hsame, hc, hsome, hnone, hx, hxs]

/-- Some of the declared properties are left out. The members stay as they are when none of these
has an accessor, and when in a collection none is left out or the mark comes once and some stay. -/
private theorem members_filter_eq_iff {o : Outline} {xs : List α} {f : α → Property}
    (h : o.properties = xs.map f) (q : α → Bool) (marks : CollectionMarks) :
    { o with properties := (xs.filter q).map f : Outline }.members marks = o.members marks ↔
      (∀ x ∈ xs, ¬ q x → ¬ o.accessors.giveAccessTo (f x)) ∧
        (o.isCollection → (∀ x ∈ xs, q x) ∨ marks = .once ∧ ∃ x ∈ xs, q x) := by
  let o' : Outline := { o with properties := (xs.filter q).map f }
  have hfewer : o'.properties.Sublist o.properties := h ▸ List.filter_sublist.map f
  have hturn : o'.properties.flatMap (o'.turn marks) = o.properties.flatMap (o.turn marks) ↔
      ∀ x ∈ xs, ¬ q x → o.turn marks (f x) = [] := by
    rw [h, List.flatMap_map, List.flatMap_map]
    exact flatMap_filter_eq_iff
  have hclosing := closing_filter_eq_iff h q marks
  have hsub : (o'.properties.flatMap (o'.turn marks)).Sublist
      (o.properties.flatMap (o.turn marks)) := hfewer.flatMap _
  show o'.members marks = o.members marks ↔ _
  rw [members, members,
    append_eq_iff_of_sublist hsub (closing_sublist hfewer (fun _ => id) marks), hturn, hclosing]
  simp only [turn_eq_nil_iff]
  cases hc : o.isCollection with
  | false => simp
  | true =>
    cases marks with
    | once => simp
    | each =>
      -- the mark after each property is lost with every property that is left out
      have hleft : (∀ x ∈ xs, ¬ q x → ¬ o.accessors.giveAccessTo (f x) ∧ ¬ true) ↔
          ∀ x ∈ xs, q x := by simp
      have hkept : (∀ x ∈ xs, q x) → ∀ x ∈ xs, ¬ q x → ¬ o.accessors.giveAccessTo (f x) :=
        fun hall x hx hout => absurd (hall x hx) hout
      simpa [hleft] using hkept

end
end Outline

namespace PropertyLine

/-- The words that declare a member of a class when they stand before its type. -/
def memberModifiers : List Text :=
  ["public".toList, "protected".toList, "private".toList, "var".toList, "static".toList,
    "readonly".toList, "final".toList, "abstract".toList, "const".toList]

def declaresMember (line : PropertyLine) : Bool := memberModifiers.contains line.modifier

/-- The text begins with a statement that has the shape of a property line: another word than a
modifier, two more words, and then a semicolon or a default. -/
def LooksDeclared (t : Text) (line : PropertyLine) : Prop :=
  line.modifier ∉ memberModifiers ∧ line.WellFormed ∧
    ∃ indent ending rest, IsIndent indent ∧ IsEnding ending ∧
      t = indent ++ (line.core ++ (ending ++ rest))

/-- The outline of a text without the statements that are read as properties. -/
def declaredOutline (source suffix : Text) : Outline :=
  { Outline.ofSource source suffix with
    properties := ((lines source).filter declaresMember).map property }

private theorem mem_lines_and_not_declaresMember_iff {source : Text} {line : PropertyLine} :
    line ∈ lines source ∧ ¬ line.declaresMember ↔
      ∃ read t, rule.Reads source read ('\n' :: t) ∧ LooksDeclared t line := by
  simp only [lines, Rule.mem_readings_iff, declaresMember, List.contains_iff_mem]
  constructor
  · intro h
    obtain ⟨⟨read, u, rest, hway, hread⟩, hword⟩ := h
    obtain ⟨indent, ending, hindent, hline, hending, rfl⟩ := read?_eq_some_iff.mp hread
    exact ⟨read, _, hway, hword, hline, indent, ending, rest, hindent, hending, rfl⟩
  · intro h
    obtain ⟨read, t, hway, hword, hline, indent, ending, rest, hindent, hending, rfl⟩ := h
    refine ⟨⟨read, _, rest, hway, ?_⟩, hword⟩
    exact read?_eq_some_iff.mpr ⟨indent, ending, hindent, hline, hending, rfl⟩

/-- All words before a type are modifiers exactly when the rule meets no statement in the shape of a
property line. A statement changes the interface when it has an accessor, and in a collection also
when the mark stands after each property or after nothing but statements. -/
theorem modifiers_iff_no_statement (source : Text) :
    ((∀ line ∈ lines source, line.modifier ∈ memberModifiers) ↔
      ∀ read t line, rule.Reads source read ('\n' :: t) → ¬ LooksDeclared t line) ∧
    ∀ config : Config,
      ((declaredOutline source config.suffix).toInterface config.marks =
          interfaceOf config source ↔
        (∀ read t line, rule.Reads source read ('\n' :: t) → LooksDeclared t line →
          ¬ AccessorMethod.HasAccessor source line.property) ∧
        (AccessorMethod.declaration AccessorMethod.toArray <:+: source →
          (∀ line ∈ lines source, line.modifier ∈ memberModifiers) ∨
            config.marks = .once ∧ ∃ line ∈ lines source, line.modifier ∈ memberModifiers)) := by
  have hmet : ∀ p : PropertyLine → Prop,
      (∀ line ∈ lines source, ¬ line.declaresMember → p line) ↔
        ∀ read t line, rule.Reads source read ('\n' :: t) → LooksDeclared t line → p line := by
    intro p
    constructor
    · intro h read t line hway hlooks
      obtain ⟨hline, hword⟩ := mem_lines_and_not_declaresMember_iff.mpr ⟨read, t, hway, hlooks⟩
      exact h line hline hword
    · intro h line hline hword
      obtain ⟨read, t, hway, hlooks⟩ := mem_lines_and_not_declaresMember_iff.mp ⟨hline, hword⟩
      exact h read t line hway hlooks
  have hdeclares : ∀ line : PropertyLine,
      line.declaresMember ↔ line.modifier ∈ memberModifiers := by
    intro line
    exact List.contains_iff_mem
  refine ⟨?_, ?_⟩
  · rw [← hmet fun _ => False]
    simp only [hdeclares, imp_false, not_not]
  · intro config
    have hproperties : (Outline.ofSource source config.suffix).properties =
      (lines source).map property := rfl
    have hmembers := Outline.members_filter_eq_iff hproperties declaresMember config.marks
    have haccess : ∀ line ∈ lines source,
        ((Outline.ofSource source config.suffix).accessors.giveAccessTo line.property ↔
          AccessorMethod.HasAccessor source line.property) := by
      intro line hline
      exact AccessorMethod.giveAccessTo_iff_hasAccessor (List.mem_map_of_mem hline)
    have hinterface : (declaredOutline source config.suffix).toInterface config.marks =
          interfaceOf config source ↔
        (declaredOutline source config.suffix).members config.marks =
          (Outline.ofSource source config.suffix).members config.marks := by
      rw [interfaceOf, Outline.toInterface_eq, Outline.toInterface_eq]
      constructor
      · intro h
        exact List.append_cancel_left (congrArg Interface.members h)
      · intro h
        rw [h]
        rfl
    rw [hinterface, ← hmet]
    refine hmembers.trans (and_congr ?_ ?_)
    · exact forall₂_congr fun line hline => imp_congr_right fun _ => not_congr (haccess line hline)
    · rw [AccessorMethod.isCollection_ofSource_iff]
      simp only [hdeclares]

/-- A class whose getter returns a variable with a cast. -/
def castSource : Text :=
  "<?php\nclass Cart\n\x7b\n    public function getTotal()\n    \x7b\n".toList ++
    "        return (int) $total;\n    \x7d\n\x7d\n".toList

/-- The cast is taken for the type of a property, and the interface gets a member of it. -/
theorem not_forall_modifier_mem :
    (¬ ∀ source, ∀ line ∈ lines source, line.modifier ∈ memberModifiers) ∧
      (interfaceOf {} castSource).members = ["total: (number);".toList] := by
  refine ⟨?_, by decide +kernel⟩
  intro h
  have hread : lines castSource = [⟨"return".toList, "(int)".toList, "$total".toList⟩] := by
    decide +kernel
  have hmem := h castSource ⟨"return".toList, "(int)".toList, "$total".toList⟩
    (by rw [hread]; simp)
  exact absurd hmem (by decide)

end PropertyLine
end ClassTypings
