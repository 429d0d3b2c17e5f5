import ClassTypings.Proofs.Places
import ClassTypings.Property
import Mathlib.Data.List.SplitBy
/-!
# Words in types

A text falls apart into its words and what stands between them. The conversion of a type looks for
keywords at every place, and what it finds and replaces are the words of the type.
-/
namespace ClassTypings
namespace Text

/-- Whether two characters are both word characters or both not. -/
def sameKind (c d : Char) : Bool := isWordChar c == isWordChar d

/-- The text in its longest runs of characters of one kind. -/
def runs (t : Text) : List Text := t.splitBy sameKind

/-- The words of a text: its longest runs of word characters. -/
def words (t : Text) : List Text := t.runs.filter (·.all isWordChar)

def hasWord (keywords : List Text) (t : Text) : Bool := t.words.any keywords.contains

/-- The text with each of its runs that is one of the keywords replaced by `target`. -/
def replaceWords (keywords : List Text) (target t : Text) : Text :=
  t.runs.flatMap fun run => if keywords.contains run then target else run

section Runs

variable {u rest : Text}

private theorem isChain_sameKind {kind : Bool} (hu : ∀ c ∈ u, isWordChar c = kind) :
    u.IsChain fun c d => sameKind c d := by
  refine List.Pairwise.isChain (List.pairwise_of_forall_mem_list fun c hc d hd => ?_)
  simp [sameKind, hu c hc, hu d hd]

private theorem runs_append {kind : Bool} (hne : u ≠ []) (hu : ∀ c ∈ u, isWordChar c = kind)
    (hrest : ∀ c, rest.head? = some c → isWordChar c ≠ kind) :
    (u ++ rest).runs = u :: rest.runs := by
  have happ : (u ++ rest).splitBy sameKind = u.splitBy sameKind ++ rest.splitBy sameKind := by
    refine List.splitBy_append fun c hc d hd => ?_
    have hlast := hu c (List.mem_of_getLast? hc)
    have hhead := hrest d hd
    simpa [sameKind, hlast] using hhead.symm
  rw [runs, happ, List.splitBy_of_isChain hne (isChain_sameKind hu)]
  rfl

/-- A text is empty, or it begins with a run that the rest does not go on. -/
@[elab_as_elim]
private theorem runs_induction {motive : Text → Prop} (nil : motive [])
    (run : ∀ kind u rest, u ≠ [] → (∀ c ∈ u, isWordChar c = kind) →
      (∀ c, rest.head? = some c → isWordChar c ≠ kind) → motive rest → motive (u ++ rest))
    (t : Text) : motive t := by
  induction hn : t.length using Nat.strongRecOn generalizing t with
  | ind n ih =>
    cases t with
    | nil => exact nil
    | cons c r =>
      obtain ⟨u, rest, hrun⟩ : ∃ u rest,
          run? (isWordChar · == isWordChar c) (c :: r) = some (u, rest) := by
        simp [run?]
      have hshorter := length_lt_of_run? hrun
      obtain ⟨hne, hsplit, hu, hrest⟩ := run?_eq_some hrun
      rw [hsplit]
      refine run (isWordChar c) u rest hne ?_ ?_ (ih rest.length (hn ▸ hshorter) rest rfl)
      · exact fun d hd => beq_iff_eq.mp (hu d hd)
      · exact fun d hd heq => hrest d hd (beq_iff_eq.mpr heq)

private theorem words_append_of_word (hne : u ≠ []) (hu : ∀ c ∈ u, isWordChar c = true)
    (hrest : ∀ c, rest.head? = some c → isWordChar c ≠ true) :
    (u ++ rest).words = u :: rest.words := by
  have hall : u.all isWordChar = true := List.all_eq_true.mpr hu
  simp only [words, runs_append hne hu hrest, List.filter_cons, hall, if_true]

private theorem words_append_of_gap (hne : u ≠ []) (hu : ∀ c ∈ u, isWordChar c = false)
    (hrest : ∀ c, rest.head? = some c → isWordChar c ≠ false) :
    (u ++ rest).words = rest.words := by
  obtain ⟨c, v, rfl⟩ := List.exists_cons_of_ne_nil hne
  have hall : (c :: v).all isWordChar = false := by simp [hu c List.mem_cons_self]
  simp only [words, runs_append hne hu hrest, List.filter_cons, hall, Bool.false_eq_true, if_false]

end Runs

section Scan

variable {keywords : List Keyword} {target u rest : Text} {before : Option Char}

/-- Keywords that are made of word characters. -/
def AreWords (keywords : List Keyword) : Prop :=
  ∀ keyword ∈ keywords, ∀ c ∈ keyword.val, isWordChar c

instance (keywords : List Keyword) : Decidable (AreWords keywords) :=
  decidable_of_iff (keywords.all fun keyword => keyword.val.all isWordChar) (by simp [AreWords])

private theorem filter_after?_word {keyword : Keyword} (hkeyword : ∀ c ∈ keyword.val, isWordChar c)
    (hne : u ≠ []) (hu : ∀ c ∈ u, isWordChar c) (hrest : ∀ c, rest.head? = some c → ¬ isWordChar c)
    (rest' : Text) :
    ((after? keyword.val (u ++ rest)).filter fun t => !t.head?.any isWordChar) = some rest' ↔
      keyword.val = u ∧ rest' = rest := by
  have hends (t : Text) : (!t.head?.any isWordChar) = true ↔
      ∀ c, t.head? = some c → ¬ isWordChar c := by
    cases t.head? <;> simp
  rw [Option.filter_eq_some_iff, after?_eq_some_iff, hends]
  constructor
  · intro h
    obtain ⟨hsplit, hrest'⟩ := h
    have hrun := run?_append keyword.property hkeyword hrest'
    rw [← hsplit, run?_append hne hu hrest] at hrun
    obtain ⟨hword, hback⟩ := Prod.mk.inj (Option.some.inj hrun)
    exact ⟨hword.symm, hback.symm⟩
  · intro h
    obtain ⟨rfl, rfl⟩ := h
    exact ⟨rfl, hrest⟩

private theorem afterKeyword?_word (hkeywords : AreWords keywords) (hne : u ≠ [])
    (hu : ∀ c ∈ u, isWordChar c) (hrest : ∀ c, rest.head? = some c → ¬ isWordChar c) :
    afterKeyword? keywords (u ++ rest) =
      if u ∈ keywords.map Subtype.val then some rest else none := by
  have hread {keyword : Keyword} (h : keyword ∈ keywords) {rest' : Text} :=
    filter_after?_word (hkeywords keyword h) hne hu hrest rest'
  cases hfound : afterKeyword? keywords (u ++ rest) with
  | none =>
    rw [if_neg]
    intro hmem
    obtain ⟨keyword, hkeyword, hval⟩ := List.mem_map.mp hmem
    have hnone := List.findSome?_eq_none_iff.mp hfound keyword hkeyword
    rw [(hread hkeyword).mpr ⟨hval, rfl⟩] at hnone
    simp at hnone
  | some rest' =>
    obtain ⟨keyword, hkeyword, hsome⟩ := List.exists_of_findSome?_eq_some hfound
    obtain ⟨rfl, rfl⟩ := (hread hkeyword).mp hsome
    rw [if_pos (List.mem_map_of_mem hkeyword)]

private theorem afterKeyword?_gap (hkeywords : AreWords keywords) {c : Char} (hc : ¬ isWordChar c)
    (t : Text) : afterKeyword? keywords (c :: t) = none := by
  rw [afterKeyword?, List.findSome?_eq_none_iff]
  intro keyword hkeyword
  obtain ⟨d, w, hw⟩ := List.exists_cons_of_ne_nil keyword.property
  have hne : d ≠ c := by
    rintro rfl
    exact hc (hkeywords keyword hkeyword d (by simp [hw]))
  simp [hw, after?, hne]

private theorem passed_gap (hkeywords : AreWords keywords) (hu : ∀ c ∈ u, ¬ isWordChar c) :
    Passed startsWord (afterKeyword? keywords) before u rest := by
  have hsilent : Silent (afterKeyword? keywords) u rest :=
    silent_of_head (fun c t hc => afterKeyword?_gap hkeywords hc t) hu rest
  exact hsilent.passed startsWord before

private theorem passed_inside {α : Type} {read : Text → Option α} {c : Char} (hc : isWordChar c)
    (hu : ∀ d ∈ u, isWordChar d) : Passed startsWord read (some c) u rest := by
  induction u generalizing c with
  | nil => exact passed_nil _ _ _ _
  | cons d u ih =>
    refine passed_cons.mpr ⟨fun hstarts => ?_, ih (hu d List.mem_cons_self) ?_⟩
    · simp [startsWord, hc] at hstarts
    · exact fun e he => hu e (List.mem_cons_of_mem d he)

private theorem passed_word (hkeywords : AreWords keywords) (hne : u ≠ [])
    (hu : ∀ c ∈ u, isWordChar c) (hrest : ∀ c, rest.head? = some c → ¬ isWordChar c)
    (hnot : u ∉ keywords.map Subtype.val) :
    Passed startsWord (afterKeyword? keywords) before u rest := by
  have hnone := afterKeyword?_word hkeywords hne hu hrest
  rw [if_neg hnot] at hnone
  obtain ⟨c, v, rfl⟩ := List.exists_cons_of_ne_nil hne
  refine passed_cons.mpr ⟨fun _ => hnone, passed_inside (hu c List.mem_cons_self) ?_⟩
  exact fun d hd => hu d (List.mem_cons_of_mem c hd)

private theorem replaceKeywords_append
    (h : Passed startsWord (afterKeyword? keywords) before u rest) :
    replaceKeywords keywords target before (u ++ rest) =
      u ++ replaceKeywords keywords target (u.getLast?.or before) rest := by
  induction u generalizing before with
  | nil => rfl
  | cons c u ih =>
    obtain ⟨hhere, hlater⟩ := passed_cons.mp h
    have hnone : (if startsWord before then afterKeyword? keywords (c :: (u ++ rest)) else none) =
        none := by
      split
      · exact hhere ‹_›
      · rfl
    have hlast : (c :: u).getLast?.or before = u.getLast?.or (some c) := by
      cases u <;> simp [List.getLast?_cons]
    rw [List.cons_append, replaceKeywords, hnone, hlast, List.cons_append, ← ih hlater]

private theorem replaceKeywords_of_read {c : Char} {v : Text} (hbefore : startsWord before)
    (h : afterKeyword? keywords (c :: v) = some rest) :
    replaceKeywords keywords target before (c :: v) =
      target ++ replaceKeywords keywords target (some c) rest := by
  have hsome : (if startsWord before then afterKeyword? keywords (c :: v) else none) =
      some rest := by rw [if_pos hbefore, h]
  rw [replaceKeywords, hsome]

private theorem not_mem_keywords_of_gap (hkeywords : AreWords keywords) (hne : u ≠ [])
    (hu : ∀ c ∈ u, ¬ isWordChar c) : u ∉ keywords.map Subtype.val := by
  intro hmem
  obtain ⟨keyword, hkeyword, rfl⟩ := List.mem_map.mp hmem
  obtain ⟨c, v, hsplit⟩ := List.exists_cons_of_ne_nil hne
  have hc : c ∈ keyword.val := by simp [hsplit]
  exact hu c hc (hkeywords keyword hkeyword c hc)

private theorem startsWord_behind {kind : Bool} (hne : u ≠ []) (hu : ∀ c ∈ u, isWordChar c = kind)
    (hrest : ∀ c, rest.head? = some c → isWordChar c ≠ kind) (before : Option Char) :
    ∀ c, rest.head? = some c → isWordChar c → startsWord (u.getLast?.or before) := by
  intro c hc hword
  obtain ⟨v, d, rfl⟩ := (List.eq_nil_or_concat u).resolve_left hne
  have hkind : isWordChar d = kind := hu d (by simp)
  have hother := hrest c hc
  simp_all [startsWord]

private theorem isSome_firstReading (hkeywords : AreWords keywords) (t : Text)
    (hbefore : ∀ c, t.head? = some c → isWordChar c → startsWord before) :
    (firstReading startsWord (afterKeyword? keywords) before t).isSome =
      hasWord (keywords.map Subtype.val) t := by
  induction t using runs_induction generalizing before with
  | nil =>
    have hnone : afterKeyword? keywords [] = none := by
      rw [afterKeyword?, List.findSome?_eq_none_iff]
      intro keyword _
      obtain ⟨c, w, hw⟩ := List.exists_cons_of_ne_nil keyword.property
      simp [hw, after?]
    simp [firstReading, hnone, hasWord, words, runs]
  | run kind u rest hne hu hrest ih =>
    have hlater := ih (startsWord_behind hne hu hrest before)
    -- A word is read whole or passed over, and what is no word is passed over.
    cases kind with
    | true =>
      rw [hasWord, words_append_of_word hne hu hrest, List.any_cons, ← hasWord, ← hlater]
      by_cases hmem : u ∈ keywords.map Subtype.val
      · have hread := afterKeyword?_word hkeywords hne hu hrest
        rw [if_pos hmem] at hread
        have hstarts : startsWord before := by
          obtain ⟨c, v, rfl⟩ := List.exists_cons_of_ne_nil hne
          exact hbefore c rfl (hu c List.mem_cons_self)
        rw [firstReading_of_read hstarts hread, List.contains_iff_mem.mpr hmem]
        rfl
      · have hfalse : (keywords.map Subtype.val).contains u = false := by
          rwa [← Bool.not_eq_true, List.contains_iff_mem]
        rw [firstReading_append (passed_word hkeywords hne hu hrest hmem), hfalse, Bool.false_or]
    | false =>
      have hgap : ∀ c ∈ u, ¬ isWordChar c := fun c hc => by simp [hu c hc]
      rw [firstReading_append (passed_gap hkeywords hgap), hlater, hasWord, hasWord,
        words_append_of_gap hne hu hrest]

/-- The scan replaces the keywords among the words of the text and nothing else. -/
private theorem replaceKeywords_eq (hkeywords : AreWords keywords) (t : Text)
    (hbefore : ∀ c, t.head? = some c → isWordChar c → startsWord before) :
    replaceKeywords keywords target before t =
      replaceWords (keywords.map Subtype.val) target t := by
  induction t using runs_induction generalizing before with
  | nil => rw [replaceKeywords, replaceWords, runs, List.splitBy_nil, List.flatMap_nil]
  | run kind u rest hne hu hrest ih =>
    have hlater := ih (startsWord_behind hne hu hrest before)
    rw [replaceWords, runs_append hne hu hrest, List.flatMap_cons, ← replaceWords]
    cases kind with
    | true =>
      by_cases hmem : u ∈ keywords.map Subtype.val
      · have hread := afterKeyword?_word hkeywords hne hu hrest
        rw [if_pos hmem] at hread
        rw [if_pos (List.contains_iff_mem.mpr hmem)]
        obtain ⟨c, v, rfl⟩ := List.exists_cons_of_ne_nil hne
        have hstart := hbefore c rfl (hu c List.mem_cons_self)
        rw [List.cons_append] at hread ⊢
        rw [replaceKeywords_of_read hstart hread, ih]
        exact fun d hd hword => absurd hword (hrest d hd)
      · rw [if_neg (mt List.contains_iff_mem.mp hmem),
          replaceKeywords_append (passed_word hkeywords hne hu hrest hmem), hlater]
    | false =>
      have hgap : ∀ c ∈ u, ¬ isWordChar c := fun c hc => by simp [hu c hc]
      have hnot := not_mem_keywords_of_gap hkeywords hne hgap
      rw [if_neg (mt List.contains_iff_mem.mp hnot),
        replaceKeywords_append (passed_gap hkeywords hgap), hlater]

end Scan
end Text

namespace TypeName

/-- Whether a backslash at the front begins a name on its line. -/
def beginsQualified : Text → Bool
  | '\\' :: c :: _ => c != '\n'
  | _ => false

/-- The type that an interface gives to a declared type, word by word. -/
def convertWords (t : Text) : Text :=
  let bare : Text := t.filter (· != '?')
  if Text.hasWord ["integer".toList, "int".toList] bare then
    Text.replaceWords ["integer".toList, "int".toList] "number".toList bare
  else if Text.hasWord ["float".toList, "double".toList] bare then
    Text.replaceWords ["float".toList, "double".toList] "number".toList bare
  else if beginsQualified bare then
    "any".toList ++ bare.dropWhile (· != '\n')
  else if Text.hasWord ["array".toList] bare then
    Text.replaceWords ["array".toList] "any[]".toList bare
  else if Text.hasWord ["mixed".toList] bare then
    Text.replaceWords ["mixed".toList] "any".toList bare
  else if Text.hasWord ["boolean".toList, "bool".toList] bare then
    Text.replaceWords ["boolean".toList, "bool".toList] "boolean".toList bare
  else bare

private theorem words_convert? {keywords : List Keyword} (hkeywords : Text.AreWords keywords)
    (target t : Text) :
    (Mapping.words keywords target).convert? t =
      if Text.hasWord (keywords.map Subtype.val) t then
        some (Text.replaceWords (keywords.map Subtype.val) target t)
      else none := by
  rw [Mapping.convert?, Text.hasKeyword, Text.isSome_firstReading hkeywords t fun _ _ _ => rfl,
    Text.replaceKeywords_eq hkeywords t fun _ _ _ => rfl]

private theorem qualified_convert? (target t : Text) :
    (Mapping.qualified target).convert? t =
      if beginsQualified t then some (target ++ t.dropWhile (· != '\n')) else none := by
  unfold Mapping.convert? beginsQualified
  split <;> simp_all

private theorem convert_eq_convertWords (t : Text) : convert t = convertWords t := by
  simp (disch := decide) only [convert, mappings, List.findSome?_cons, List.findSome?_nil,
    words_convert?, qualified_convert?, List.map_cons, List.map_nil, convertWords]
  split_ifs <;> rfl

/-- A type is converted word by word, by the first of the rules that applies. The marks of
nullability say nothing, and the line of a property gives its converted type. -/
theorem convert_wordwise :
    (∀ t, convert t = convertWords t) ∧
      ∀ p : Property, convert p.type = convert p.plainType ∧
        p.member = p.name ++ ": ".toList ++ convert p.type ++ ";".toList := by
  have hplain (p : Property) : convert p.type = convert p.plainType := by
    simp only [convert, Property.plainType, List.filter_filter, Bool.and_self]
  refine ⟨convert_eq_convertWords, fun p => ⟨hplain p, ?_⟩⟩
  rw [Property.member, hplain]

end TypeName
end ClassTypings
