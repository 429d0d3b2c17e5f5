import ClassTypings.Typings
import ClassTypings.Proofs.Places
/-!
# Declarations read back

The text of a declaration tells the interface that it declares. The words of its header tell the
name and the parents, though each of the two may be missing and a name may be `extends`; the lines
below the header tell the members.
-/
namespace ClassTypings.Interface

/-- A text that can stand for a name in a header. -/
def IsHeaderName (name : Text) : Prop := ' ' ∉ name ∧ ',' ∉ name ∧ '\n' ∉ name

instance (name : Text) : Decidable (IsHeaderName name) := by
  unfold IsHeaderName
  infer_instance

/-- An interface whose names stay apart in a header and whose members stay on their lines. -/
structure IsLegible (i : Interface) : Prop where
  name : IsHeaderName i.name
  parents : ∀ parent ∈ i.parents, IsHeaderName parent
  members : ∀ line ∈ i.members, '\n' ∉ line

def extendsWord : Text := "extends".toList

/-- Texts with a comma behind each but the last. -/
def withCommas : List Text → List Text
  | [] => []
  | [parent] => [parent]
  | parent :: parents => (parent ++ [',']) :: withCommas parents

/-- The words between `interface` and the brace. -/
def headerWords (i : Interface) : List Text :=
  (if i.name.isEmpty then [] else [i.name]) ++
    if i.parents.isEmpty then [] else extendsWord :: withCommas i.parents

/-- Texts without the commas behind each but the last. -/
def withoutCommas : List Text → List Text
  | [] => []
  | [word] => [word]
  | word :: words => word.dropLast :: withoutCommas words

/-- The name and the parents in the words of a header. The word `extends` may be a name: it comes
before the parents only where a word follows, and only once. -/
def ofHeaderWords : List Text → Text × List Text
  | [] => ([], [])
  | [name] => (name, [])
  | first :: second :: words =>
    if second = extendsWord ∧ words ≠ [] then (first, withoutCommas words)
    else ([], withoutCommas (second :: words))

/-- The interface in the lines of a declaration, of which the first begins behind `interface`. Each
line of a member begins with a tab. -/
def ofLines (header : Text) (lines : List Text) : Interface :=
  let names := ofHeaderWords (header.splitOn ' ').tail.dropLast
  ⟨names.1, names.2, (lines.takeWhile (·.head? == some '\t')).map List.tail⟩

/-- The interface that a text declares under the heading with a banner. -/
def ofDeclaration? (banner t : Text) : Option Interface :=
  match (Text.after? (heading banner ++ "interface".toList) t).map (·.splitOn '\n') with
  | some (header :: lines) => some (ofLines header lines)
  | _ => none

section

variable {i : Interface}

private theorem withCommas_cons_cons (parent next : Text) (parents : List Text) :
    withCommas (parent :: next :: parents) = (parent ++ [',']) :: withCommas (next :: parents) :=
  rfl

private theorem withCommas_ne_nil {parents : List Text} (h : parents ≠ []) : withCommas parents ≠
    [] := by
  match parents with
  | [_] => simp [withCommas]
  | _ :: _ :: _ => simp [withCommas]

private theorem withoutCommas_withCommas (parents : List Text) :
    withoutCommas (withCommas parents) = parents := by
  match parents with
  | [] => rfl
  | [_] => rfl
  | parent :: next :: parents =>
    obtain ⟨word, words, hwords⟩ :=
      List.exists_cons_of_ne_nil (withCommas_ne_nil (List.cons_ne_nil next parents))
    have hrest := withoutCommas_withCommas (next :: parents)
    rw [hwords] at hrest
    rw [withCommas_cons_cons, hwords, withoutCommas, List.dropLast_concat, hrest]
    exact List.cons_ne_nil word words

private theorem flatMap_withCommas {parents : List Text} (h : parents ≠ []) :
    (withCommas parents).flatMap (' ' :: ·) = ' ' :: ", ".toList.intercalate parents := by
  match parents with
  | [parent] => simp [withCommas]
  | parent :: next :: parents =>
    rw [withCommas_cons_cons, List.flatMap_cons, flatMap_withCommas (List.cons_ne_nil _ _),
      List.intercalate_cons_cons]
    simp

private theorem headerClauses_eq (i : Interface) :
    nameClause i.name ++ extendsClause i.parents = i.headerWords.flatMap (' ' :: ·) := by
  have hname : nameClause i.name =
      (if i.name.isEmpty then [] else [i.name]).flatMap (' ' :: ·) := by
    unfold nameClause
    split <;> simp
  have hparents : extendsClause i.parents =
      (if i.parents.isEmpty then [] else extendsWord :: withCommas i.parents).flatMap
        (' ' :: ·) := by
    unfold extendsClause
    split
    · rfl
    · rename_i hne
      rw [List.flatMap_cons, flatMap_withCommas (by simpa using hne)]
      rfl
  rw [hname, hparents, headerWords, List.flatMap_append]

/-- The first of several parents has a comma behind it, so that it is not the word `extends`. -/
private theorem ofHeaderWords_extends {parents : List Text} (hne : parents ≠ []) :
    ofHeaderWords (extendsWord :: withCommas parents) = ([], parents) := by
  match parents with
  | [parent] => simp [withCommas, ofHeaderWords, withoutCommas]
  | parent :: next :: parents =>
    have hword : parent ++ [','] ≠ extendsWord := by
      intro heq
      have hcomma : ',' ∈ extendsWord := by simp [← heq]
      exact absurd hcomma (by decide)
    rw [withCommas_cons_cons, ofHeaderWords, if_neg fun h => hword h.1, ← withCommas_cons_cons,
      withoutCommas_withCommas]

private theorem ofHeaderWords_headerWords (i : Interface) :
    ofHeaderWords i.headerWords = (i.name, i.parents) := by
  unfold headerWords
  by_cases hname : i.name = []
  · by_cases hparents : i.parents = []
    · simp [hname, hparents, ofHeaderWords]
    · simp [hname, hparents, ofHeaderWords_extends hparents]
  · by_cases hparents : i.parents = []
    · simp [hname, hparents, ofHeaderWords]
    · simp [hname, hparents, ofHeaderWords, withCommas_ne_nil hparents, withoutCommas_withCommas]

private theorem noBlank_of_mem_withCommas {parents : List Text} {word : Text}
    (h : ∀ parent ∈ parents, IsHeaderName parent) (hword : word ∈ withCommas parents) :
    ' ' ∉ word ∧ '\n' ∉ word := by
  match parents with
  | [] => simp [withCommas] at hword
  | [parent] =>
    obtain rfl : word = parent := by simpa [withCommas] using hword
    obtain ⟨hspace, -, hnewline⟩ := h word List.mem_cons_self
    exact ⟨hspace, hnewline⟩
  | parent :: next :: parents =>
    rcases List.mem_cons.mp hword with rfl | hlater
    · obtain ⟨hspace, -, hnewline⟩ := h parent List.mem_cons_self
      simp [hspace, hnewline]
    · exact noBlank_of_mem_withCommas (fun p hp => h p (List.mem_cons_of_mem _ hp)) hlater

private theorem IsLegible.noBlank_headerWords (h : i.IsLegible) {word : Text}
    (hword : word ∈ i.headerWords) : ' ' ∉ word ∧ '\n' ∉ word := by
  rcases List.mem_append.mp hword with hname | hparents
  · obtain rfl : word = i.name := by
      split at hname
      · simp at hname
      · simpa using hname
    exact ⟨h.name.1, h.name.2.2⟩
  · split at hparents
    · simp at hparents
    · rcases List.mem_cons.mp hparents with rfl | hlater
      · decide
      · exact noBlank_of_mem_withCommas h.parents hlater

def headerLine (i : Interface) : Text :=
  nameClause i.name ++ extendsClause i.parents ++ " \x7b".toList

private theorem IsLegible.splitOn_headerLine (h : i.IsLegible) :
    i.headerLine.splitOn ' ' = [] :: (i.headerWords ++ ["\x7b".toList]) := by
  have hline : i.headerLine = [' '].intercalate ([] :: (i.headerWords ++ ["\x7b".toList])) := by
    rw [headerLine, headerClauses_eq, Text.intercalate_cons_eq, List.flatMap_append]
    rfl
  rw [hline]
  refine List.splitOn_intercalate ' ' (fun word hword => ?_) (List.cons_ne_nil _ _)
  rcases List.mem_cons.mp hword with rfl | hword
  · simp
  · rcases List.mem_append.mp hword with hword | hword
    · exact (h.noBlank_headerWords hword).1
    · obtain rfl := List.mem_singleton.mp hword
      decide

private theorem IsLegible.noNewline_headerLine (h : i.IsLegible) : '\n' ∉ i.headerLine := by
  rw [headerLine, headerClauses_eq, List.mem_append, List.mem_flatMap]
  rintro (⟨word, hword, hnewline⟩ | hbrace)
  · rcases List.mem_cons.mp hnewline with hspace | hnewline
    · exact absurd hspace (by decide)
    · exact (h.noBlank_headerWords hword).2 hnewline
  · exact absurd hbrace (by decide)

/-- The lines below the header, with what stands behind the last newline. -/
def bodyLines (i : Interface) : List Text := i.members.map ('\t' :: ·) ++ ["\x7d".toList, []]

private theorem flatMap_memberLine (members : List Text) :
    '\n' :: members.flatMap memberLine =
      (members.map ('\t' :: ·)).flatMap ('\n' :: ·) ++ ['\n'] := by
  induction members with
  | nil => rfl
  | cons line members ih => simp [memberLine, ← ih]

private theorem render_eq (banner : Text) (i : Interface) :
    i.render banner =
      heading banner ++ "interface".toList ++ ['\n'].intercalate (i.headerLine :: i.bodyLines) := by
  have hbody : i.bodyLines.flatMap ('\n' :: ·) =
      '\n' :: i.members.flatMap memberLine ++ "\x7d\n".toList := by
    rw [flatMap_memberLine, bodyLines, List.flatMap_append]
    simp
  have hopening : " \x7b\n".toList = " \x7b".toList ++ ['\n'] := rfl
  rw [Text.intercalate_cons_eq, hbody, render, headerLine, hopening]
  simp only [List.append_assoc, List.cons_append, List.nil_append]

private theorem IsLegible.splitOn_lines (h : i.IsLegible) :
    (['\n'].intercalate (i.headerLine :: i.bodyLines)).splitOn '\n' =
      i.headerLine :: i.bodyLines := by
  refine List.splitOn_intercalate '\n' (fun line hline => ?_) (List.cons_ne_nil _ _)
  rcases List.mem_cons.mp hline with rfl | hline
  · exact h.noNewline_headerLine
  · rcases List.mem_append.mp hline with hline | hline
    · obtain ⟨member, hmember, rfl⟩ := List.mem_map.mp hline
      simpa using h.members member hmember
    · have hends : ∀ line ∈ ["\x7d".toList, []], '\n' ∉ line := by decide
      exact hends line hline

private theorem takeWhile_bodyLines (i : Interface) :
    (i.bodyLines.takeWhile (·.head? == some '\t')).map List.tail = i.members := by
  have htabs : ∀ line ∈ i.members.map ('\t' :: ·), (line.head? == some '\t') = true := by
    simp
  rw [bodyLines, List.takeWhile_append_of_pos htabs]
  simp [Function.comp_def]

private theorem ofLines_lines (h : i.IsLegible) : ofLines i.headerLine i.bodyLines = i := by
  simp only [ofLines, h.splitOn_headerLine, List.tail_cons, List.dropLast_concat,
    ofHeaderWords_headerWords, takeWhile_bodyLines]

private theorem ofDeclaration?_render (banner : Text) (h : i.IsLegible) :
    ofDeclaration? banner (i.render banner) = some i := by
  rw [render_eq, ofDeclaration?, Text.after?_append, Option.map_some, h.splitOn_lines]
  exact congrArg some (ofLines_lines h)

/-- Under a given heading, the text of a declaration determines the interface: it can be read back,
so that two interfaces with the same text have the same name, parents and members. -/
theorem render_determines (banner : Text) :
    (∀ i : Interface, i.IsLegible → ofDeclaration? banner (i.render banner) = some i) ∧
      ∀ i j : Interface, i.IsLegible → j.IsLegible → i.render banner = j.render banner →
        i.name = j.name ∧ i.parents = j.parents ∧ i.members = j.members := by
  refine ⟨fun i hi => ofDeclaration?_render banner hi, fun i j hi hj heq => ?_⟩
  have hread : some i = some j := by
    rw [← ofDeclaration?_render banner hi, heq, ofDeclaration?_render banner hj]
  obtain rfl := Option.some.inj hread
  exact ⟨rfl, rfl, rfl⟩

/-- An interface that is called `extends` and one without a name, with parents of that name. -/
theorem render_determines_extends :
    let named : Interface := { name := extendsWord, parents := [extendsWord] }
    let nameless : Interface := { parents := [extendsWord, extendsWord] }
    (named.IsLegible ∧ nameless.IsLegible) ∧
      ofDeclaration? toolName (nameless.render toolName) = some nameless ∧
      named.render toolName ≠ nameless.render toolName := by
  intro named nameless
  obtain ⟨hread, hsame⟩ := render_determines toolName
  have hnamed : named.IsLegible := ⟨by decide, by decide, by decide⟩
  have hnameless : nameless.IsLegible := ⟨by decide, by decide, by decide⟩
  refine ⟨⟨hnamed, hnameless⟩, hread nameless hnameless, fun heq => ?_⟩
  exact absurd (hsame named nameless hnamed hnameless heq).1 (by decide)

end

end ClassTypings.Interface
