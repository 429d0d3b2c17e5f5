import ClassTypings.Typings
import Mathlib.Data.Finset.Card
import Mathlib.Data.Finset.Dedup
import Mathlib.Data.List.Flatten
/-!
# Members and declarations

The members of an interface as one list, the declaration of a text that declares no class, and how
the members depend on the methods of the class: more methods bring more members, and neither the
order of the methods nor a method that is listed twice matters.
-/
namespace ClassTypings
namespace Outline

/-- The member lines that come of one property. -/
def turn (o : Outline) (marks : CollectionMarks) (p : Property) : List Text :=
  (if o.accessors.giveAccessTo p then [p.member] else []) ++
    (if o.isCollection && marks == .each then [collectionMember] else [])

/-- The member lines that come after those of the properties. -/
def closing (o : Outline) (marks : CollectionMarks) : List Text :=
  if o.isCollection && marks == .once && !o.properties.isEmpty then [collectionMember] else []

def members (o : Outline) (marks : CollectionMarks) : List Text :=
  o.properties.flatMap (o.turn marks) ++ o.closing marks

private theorem consider_eq (o : Outline) (marks : CollectionMarks) (i : Interface) (p : Property) :
    o.consider marks i p = { i with members := i.members ++ o.turn marks p } := by
  unfold consider turn
  split <;> split <;> simp [Interface.addMember]

private theorem foldl_consider (o : Outline) (marks : CollectionMarks) (ps : List Property)
    (i : Interface) :
    ps.foldl (o.consider marks) i =
      { i with members := i.members ++ ps.flatMap (o.turn marks) } := by
  induction ps generalizing i with
  | nil => simp
  | cons p ps ih =>
    rw [List.foldl_cons, ih, consider_eq]
    simp

theorem toInterface_eq (o : Outline) (marks : CollectionMarks) :
    o.toInterface marks =
      { o.interface with members := o.interface.members ++ o.members marks } := by
  simp only [toInterface, foldl_consider, members, closing]
  split <;> simp [Interface.addMember]

theorem turn_eq_nil_iff {o : Outline} {marks : CollectionMarks} {p : Property} :
    o.turn marks p = [] ↔
      ¬ o.accessors.giveAccessTo p ∧ ¬ (o.isCollection && marks == .each) := by
  unfold turn
  split <;> split <;> simp_all

/-- Under both policies there are no members when no property has an accessor and no declared
property meets the mark of a collection. -/
private theorem members_eq_nil_iff {o : Outline} {marks : CollectionMarks} :
    o.members marks = [] ↔
      (∀ p ∈ o.properties, ¬ o.accessors.giveAccessTo p) ∧
        (AccessorMethod.toArray ∈ o.accessors → o.properties = []) := by
  have hcollection : o.isCollection = true ↔ AccessorMethod.toArray ∈ o.accessors := by
    simp [isCollection]
  simp only [members, List.append_eq_nil_iff, List.flatMap_eq_nil_iff, turn_eq_nil_iff, closing,
    ← hcollection]
  cases marks with
  | once =>
    cases hc : o.isCollection <;> cases hp : o.properties <;> simp
  | each =>
    cases hc : o.isCollection
    · simp
    · cases hp : o.properties with
      | nil => simp
      | cons p ps =>
        constructor
        · intro h
          obtain ⟨h, -⟩ := h
          have := (h p (by simp)).2
          simp at this
        · intro h
          obtain ⟨-, h⟩ := h
          simp at h

private theorem giveAccessTo_mono {a b : Accessors} (h : ∀ m ∈ a, m ∈ b) {p : Property}
    (hp : a.giveAccessTo p) : b.giveAccessTo p := by
  unfold Accessors.giveAccessTo at hp ⊢
  rw [List.any_eq_true] at hp ⊢
  obtain ⟨verb, hverb, hmem⟩ := hp
  exact ⟨verb, hverb, decide_eq_true (h _ (of_decide_eq_true hmem))⟩

private theorem isCollection_mono {o o' : Outline} (h : ∀ m ∈ o.accessors, m ∈ o'.accessors)
    (ho : o.isCollection) : o'.isCollection := by
  unfold isCollection at ho ⊢
  exact decide_eq_true (h _ (of_decide_eq_true ho))

private theorem sublist_if {α : Type} {b c : Bool} (h : b → c) (x : α) :
    (if b then [x] else []).Sublist (if c then [x] else []) := by
  cases b
  · simp
  · simp [h rfl]

private theorem turn_sublist {o o' : Outline} (h : ∀ m ∈ o.accessors, m ∈ o'.accessors)
    (marks : CollectionMarks) (p : Property) :
    (o.turn marks p).Sublist (o'.turn marks p) := by
  apply List.Sublist.append
  · exact sublist_if (giveAccessTo_mono h) _
  · apply sublist_if
    intro hmark
    rw [Bool.and_eq_true] at hmark ⊢
    exact ⟨isCollection_mono h hmark.1, hmark.2⟩

theorem closing_sublist {o o' : Outline} (hproperties : o.properties.Sublist o'.properties)
    (haccessors : ∀ m ∈ o.accessors, m ∈ o'.accessors) (marks : CollectionMarks) :
    (o.closing marks).Sublist (o'.closing marks) := by
  apply sublist_if
  intro hmark
  simp only [Bool.and_eq_true, Bool.not_eq_true', List.isEmpty_eq_false_iff] at hmark ⊢
  refine ⟨⟨isCollection_mono haccessors hmark.1.1, hmark.1.2⟩, ?_⟩
  intro hnil
  rw [hnil] at hproperties
  exact hmark.2 (List.sublist_nil.mp hproperties)

theorem members_sublist {o o' : Outline} (hproperties : o.properties.Sublist o'.properties)
    (haccessors : ∀ m ∈ o.accessors, m ∈ o'.accessors) (marks : CollectionMarks) :
    (o.members marks).Sublist (o'.members marks) := by
  have hturns : (o.properties.flatMap (o.turn marks)).Sublist
      (o.properties.flatMap (o'.turn marks)) :=
    List.Sublist.flatMap_right _ fun p _ => turn_sublist haccessors marks p
  have hmore : (o.properties.flatMap (o'.turn marks)).Sublist
      (o'.properties.flatMap (o'.turn marks)) := hproperties.flatMap _
  exact (hturns.trans hmore).append (closing_sublist hproperties haccessors marks)

end Outline

namespace Interface

private theorem flatMap_memberLine_eq_nil_iff {members : List Text} :
    members.flatMap memberLine = [] ↔ members = [] := by
  cases members <;> simp [memberLine]

private theorem render_eq_empty_iff {i : Interface} (hname : i.name = []) (banner : Text) :
    i.render banner = heading banner ++ "interface \x7b\n\x7d\n".toList ↔
      i.parents = [] ∧ i.members = [] := by
  have hempty : "interface \x7b\n\x7d\n".toList =
      "interface".toList ++ ([] ++ (" \x7b\n".toList ++ ([] ++ "\x7d\n".toList))) := by decide
  have hrender : i.render banner = heading banner ++ ("interface".toList ++
      (extendsClause i.parents ++ (" \x7b\n".toList ++ (i.members.flatMap memberLine ++
        "\x7d\n".toList)))) := by
    simp [render, nameClause, hname]
  rw [hrender, hempty, List.append_cancel_left_eq, List.append_cancel_left_eq]
  constructor
  · intro h
    have hparents : i.parents = [] := by
      cases hp : i.parents with
      | nil => rfl
      | cons p ps =>
        rw [hp] at h
        simp [extendsClause] at h
    refine ⟨hparents, ?_⟩
    simp only [hparents, extendsClause, List.isEmpty_nil, if_true, List.nil_append,
      List.append_cancel_left_eq] at h
    have hlines : i.members.flatMap memberLine ++ "\x7d\n".toList = [] ++ "\x7d\n".toList := h
    exact flatMap_memberLine_eq_nil_iff.mp (List.append_cancel_right hlines)
  · intro h
    obtain ⟨hparents, hmembers⟩ := h
    simp [hparents, hmembers, extendsClause]

private theorem foldl_addParent (i : Interface) (names : List Text) (suffix : Text) :
    names.foldl (fun i name => i.addParent name suffix) i =
      { i with parents := i.parents ++ names.map (· ++ suffix) } := by
  induction names generalizing i with
  | nil => simp
  | cons name names ih =>
    rw [List.foldl_cons, ih]
    simp [addParent]

/-- An interface is read from a source text by giving it the name, if there is one, and then adding
the parents one after another. -/
theorem interface_ofSource_eq_foldl (source suffix : Text) :
    (Outline.ofSource source suffix).interface =
      (ClassHeader.parents source).foldl (fun i name => i.addParent name suffix)
        ((ClassHeader.name? source).elim {} fun name => withName {} name suffix) := by
  rw [foldl_addParent]
  cases hname : ClassHeader.name? source with
  | none => simp [Outline.ofSource, hname]
  | some name => simp [Outline.ofSource, withName, hname]

end Interface

theorem interfaceOf_eq (config : Config) (source : Text) :
    interfaceOf config source =
      { name := ((ClassHeader.name? source).map (· ++ config.suffix)).getD []
        parents := (ClassHeader.parents source).map (· ++ config.suffix)
        members := (Outline.ofSource source config.suffix).members config.marks } := by
  rw [interfaceOf, Outline.toInterface_eq]
  rfl

/-- The interface of a text without a class has no name. It is the empty interface exactly when the
text has no parents to extend, no property with an accessor, and no property beside a method that
turns the object into an array. -/
theorem declarationOf_of_no_class {source : Text} (h : ClassHeader.name? source = none)
    (config : Config) :
    (interfaceOf config source).name = [] ∧
    (declarationOf config source =
        Interface.heading config.banner ++ "interface \x7b\n\x7d\n".toList ↔
      ClassHeader.parents source = [] ∧
      (∀ p ∈ PropertyLine.properties source,
        ¬ (AccessorMethod.accessors source).giveAccessTo p) ∧
      (AccessorMethod.toArray ∈ AccessorMethod.accessors source →
        PropertyLine.properties source = [])) := by
  have hname : (interfaceOf config source).name = [] := by simp [interfaceOf_eq, h]
  refine ⟨hname, ?_⟩
  rw [declarationOf, Interface.render_eq_empty_iff hname, interfaceOf_eq]
  dsimp only
  rw [List.map_eq_nil_iff, Outline.members_eq_nil_iff]
  rfl

/-- A trait whose property has no accessor. -/
theorem declarationOf_trait_without_accessor :
    ClassHeader.name? "<?php\ntrait Id\n\x7b\n    private int $id;\n\x7d\n".toList = none ∧
    declarationOf {} "<?php\ntrait Id\n\x7b\n    private int $id;\n\x7d\n".toList =
      Interface.heading toolName ++ "interface \x7b\n\x7d\n".toList := by
  have hname : ClassHeader.name? "<?php\ntrait Id\n\x7b\n    private int $id;\n\x7d\n".toList =
      none := by decide
  have hreadings : AccessorMethod.rule.readings
      "<?php\ntrait Id\n\x7b\n    private int $id;\n\x7d\n".toList = [] := by decide +kernel
  have haccessors : AccessorMethod.accessors
      "<?php\ntrait Id\n\x7b\n    private int $id;\n\x7d\n".toList = Accessors.empty := by
    rw [AccessorMethod.accessors, hreadings]
    rfl
  refine ⟨hname, (declarationOf_of_no_class hname {}).2.mpr ⟨by decide +kernel, ?_, ?_⟩⟩
  · intro p _
    rw [haccessors]
    simp [Accessors.giveAccessTo, Accessors.not_mem_empty]
  · intro hmem
    rw [haccessors] at hmem
    exact absurd hmem (Accessors.not_mem_empty _)

/-- A trait whose property has an accessor: the text declares no class, and yet the property is a
member. -/
theorem not_forall_empty_without_class :
    ¬ ∀ config source, ClassHeader.name? source = none →
      "interface \x7b\n\x7d\n".toList <:+ declarationOf config source := by
  intro h
  have hname : ClassHeader.name?
      "<?php\ntrait Id\n\x7b\n private int $id;\n function getId() \x7b\x7d\n\x7d\n".toList =
        none := by decide
  have hdeclaration : declarationOf {}
      "<?php\ntrait Id\n\x7b\n private int $id;\n function getId() \x7b\x7d\n\x7d\n".toList =
      Interface.heading toolName ++ "interface \x7b\n\tid: number;\n\x7d\n".toList := by
    decide +kernel
  have hempty := h {} _ hname
  rw [hdeclaration] at hempty
  exact absurd hempty (by decide)

namespace Accessors

private theorem perm_names {a b : Accessors} (h : ∀ m, m ∈ a ↔ m ∈ b) : a.names.Perm b.names :=
  (List.perm_ext_iff_of_nodup a.nodup b.nodup).mpr h

private theorem size_eq_of_mem_iff {a b : Accessors} (h : ∀ m, m ∈ a ↔ m ∈ b) : a.size = b.size :=
  (perm_names h).length_eq

private theorem size_ofList (ms : List Text) : (ofList ms).size = ms.toFinset.card := by
  have hsame : (ofList ms).names.toFinset = ms.toFinset := by
    ext m
    rw [List.mem_toFinset, List.mem_toFinset]
    exact mem_ofList
  rw [← hsame, List.toFinset_card_of_nodup (ofList ms).nodup]
  rfl

end Accessors

namespace Outline

private theorem toInterface_members_sublist (i : Interface) (ps : List Property) {a b : Accessors}
    (h : ∀ m ∈ a, m ∈ b) (marks : CollectionMarks) :
    ((Outline.mk i ps a).toInterface marks).members.Sublist
      ((Outline.mk i ps b).toInterface marks).members := by
  have hgained : ((Outline.mk i ps a).members marks).Sublist ((Outline.mk i ps b).members marks) :=
    members_sublist (List.Sublist.refl ps) h marks
  rw [toInterface_eq, toInterface_eq]
  exact (List.Sublist.refl i.members).append hgained

/-- Each list of members is a part of the other, so they are the same. -/
private theorem toInterface_eq_of_mem_iff (i : Interface) (ps : List Property) {a b : Accessors}
    (h : ∀ m, m ∈ a ↔ m ∈ b) (marks : CollectionMarks) :
    (Outline.mk i ps a).toInterface marks = (Outline.mk i ps b).toInterface marks := by
  have hthere := toInterface_members_sublist i ps (fun m => (h m).mp) marks
  have hback := toInterface_members_sublist i ps (fun m => (h m).mpr) marks
  have hmembers := hthere.antisymm hback
  rw [toInterface_eq, toInterface_eq] at hmembers ⊢
  rw [Interface.mk.injEq]
  exact ⟨rfl, rfl, hmembers⟩

/-- With more methods the members stay and keep their order, and others may come between them. Two
lists of the same methods give the same interface and sets of one size, the number of different
methods. -/
theorem toInterface_of_methods (i : Interface) (ps : List Property) (marks : CollectionMarks)
    {methods more : List Text} (h : ∀ m ∈ methods, m ∈ more) :
    ((Outline.mk i ps (.ofList methods)).toInterface marks).members.Sublist
        ((Outline.mk i ps (.ofList more)).toInterface marks).members ∧
      (Accessors.ofList methods).size = methods.toFinset.card ∧
      ((∀ m ∈ more, m ∈ methods) →
        (Outline.mk i ps (.ofList methods)).toInterface marks =
            (Outline.mk i ps (.ofList more)).toInterface marks ∧
          (Accessors.ofList methods).size = (Accessors.ofList more).size) := by
  have hmore : ∀ m ∈ Accessors.ofList methods, m ∈ Accessors.ofList more := by
    intro m hm
    exact Accessors.mem_ofList.mpr (h m (Accessors.mem_ofList.mp hm))
  refine ⟨toInterface_members_sublist i ps hmore marks, Accessors.size_ofList methods, ?_⟩
  intro hback
  have hsame : ∀ m, m ∈ Accessors.ofList methods ↔ m ∈ Accessors.ofList more := by
    intro m
    refine ⟨hmore m, fun hm => ?_⟩
    exact Accessors.mem_ofList.mpr (hback m (Accessors.mem_ofList.mp hm))
  exact ⟨toInterface_eq_of_mem_iff i ps hsame marks, Accessors.size_eq_of_mem_iff hsame⟩

/-- A getter and the mark of a collection, in another order and with the getter twice. -/
theorem toInterface_of_methods_repeated :
    let ps : List Property := [⟨"int".toList, "id".toList⟩, ⟨"int".toList, "key".toList⟩]
    let methods := ["getId".toList, "toArray".toList]
    let more := ["toArray".toList, "getId".toList, "getId".toList]
    ((∀ m ∈ methods, m ∈ more) ∧ ∀ m ∈ more, m ∈ methods) ∧
      (Outline.mk {} ps (.ofList methods)).toInterface .each =
        (Outline.mk {} ps (.ofList more)).toInterface .each ∧
      (Accessors.ofList more).size = 2 := by
  intro ps methods more
  have hmore : ∀ m ∈ methods, m ∈ more := by decide
  have hback : ∀ m ∈ more, m ∈ methods := by decide
  obtain ⟨-, hsize, hsame⟩ := toInterface_of_methods {} ps .each hmore
  obtain ⟨hinterface, hsizes⟩ := hsame hback
  refine ⟨⟨hmore, hback⟩, hinterface, ?_⟩
  rw [← hsizes, hsize]
  decide

end Outline
end ClassTypings
