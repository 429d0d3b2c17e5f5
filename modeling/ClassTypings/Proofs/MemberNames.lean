import ClassTypings.Proofs.Members
import Mathlib.Data.List.Nodup
/-!
# Names of members

The names of the members that properties with different names bring. Where the class is a
collection, one name can stand twice: that of the member that marks it. Both ways to mark a
collection keep the members of the properties that have an accessor; marking once adds at most one
line, marking each adds as many lines as there are properties.
-/
namespace ClassTypings

/-- The name of a member: its line up to the first colon. -/
def memberName (line : Text) : Text := line.takeWhile (· != ':')

def collectionName : Text := "collection".toList

private theorem memberName_collectionMember :
    memberName collectionMember = collectionName := by decide

private theorem Property.memberName_member {p : Property} (h : ':' ∉ p.name) :
    memberName p.member = p.name := by
  have hname : ∀ c ∈ p.name, (c != ':') = true := by
    intro c hc
    have hne : c ≠ ':' := fun heq => h (heq ▸ hc)
    simpa using hne
  have hline : p.member = p.name ++ ':' :: (' ' :: TypeName.convert p.plainType ++ [';']) := by
    simp [Property.member]
  rw [memberName, hline, List.takeWhile_append_of_pos hname]
  simp

namespace Outline

/-- The properties that have an accessor. -/
def exposed (o : Outline) : List Property := o.properties.filter (o.accessors.giveAccessTo ·)

private theorem exposed_sublist (o : Outline) :
    o.exposed.Sublist o.properties := List.filter_sublist

private theorem turn_once (o : Outline) (p : Property) :
    o.turn .once p = if o.accessors.giveAccessTo p then [p.member] else [] := by
  simp [turn]

private theorem flatMap_turn_once (o : Outline) (ps : List Property) :
    ps.flatMap (o.turn .once) =
      (ps.filter (o.accessors.giveAccessTo ·)).map Property.member := by
  induction ps with
  | nil => rfl
  | cons p ps ih =>
    rw [List.flatMap_cons, ih, turn_once]
    by_cases h : o.accessors.giveAccessTo p <;> simp [h]

/-- Whether the mark of a collection is among the members when it is written once. -/
def isMarked (o : Outline) : Bool := o.isCollection && !o.properties.isEmpty

private theorem members_once (o : Outline) :
    o.members .once =
      o.exposed.map Property.member ++ if o.isMarked then [collectionMember] else [] := by
  rw [members, flatMap_turn_once]
  simp [closing, exposed, isMarked]

private theorem memberNames_once {o : Outline} (h : ∀ p ∈ o.properties, ':' ∉ p.name) :
    (o.members .once).map memberName =
      o.exposed.map Property.name ++ if o.isMarked then [collectionName] else [] := by
  have hnames : o.exposed.map (memberName ∘ Property.member) = o.exposed.map Property.name := by
    apply List.map_congr_left
    intro p hp
    exact Property.memberName_member (h p (o.exposed_sublist.subset hp))
  rw [members_once, List.map_append, List.map_map, hnames]
  split <;> simp [memberName_collectionMember]

private theorem collectionName_mem_exposed_iff {o : Outline} :
    collectionName ∈ o.exposed.map Property.name ↔
      ∃ p ∈ o.properties, p.name = collectionName ∧ o.accessors.giveAccessTo p := by
  simp only [exposed, List.mem_map, List.mem_filter]
  constructor
  · rintro ⟨p, ⟨hp, haccess⟩, hname⟩
    exact ⟨p, hp, hname, haccess⟩
  · rintro ⟨p, hp, hname, haccess⟩
    exact ⟨p, ⟨hp, haccess⟩, hname⟩

/-- The members that come of properties with different names have different names, but for one case:
a collection that has a property of the name of its mark, and an accessor for this property. Then
that name stands twice, and no other name does. -/
theorem memberNames_nodup_iff {o : Outline} (hempty : o.interface.members = [])
    (hnames : ∀ p ∈ o.properties, p.name ≠ [] ∧ ∀ c ∈ p.name, c.isAlphanum ∨ c = '_')
    (hapart : (o.properties.map Property.name).Nodup) :
    (((o.toInterface .once).members.map memberName).Nodup ↔
      ¬ (o.isCollection ∧
        ∃ p ∈ o.properties, p.name = collectionName ∧ o.accessors.giveAccessTo p)) ∧
    (∀ name ≠ collectionName, ((o.toInterface .once).members.map memberName).count name ≤ 1) ∧
    ((o.toInterface .once).members.map memberName).count collectionName ≤ 2 := by
  have hcolon : ∀ p ∈ o.properties, ':' ∉ p.name := by
    intro p hp hmem
    exact absurd ((hnames p hp).2 _ hmem) (by decide)
  have hexposed : (o.exposed.map Property.name).Nodup :=
    hapart.sublist (o.exposed_sublist.map _)
  have hall : (o.toInterface .once).members.map memberName =
      o.exposed.map Property.name ++ if o.isMarked then [collectionName] else [] := by
    rw [toInterface_eq, hempty, List.nil_append, memberNames_once hcolon]
  rw [hall, ← collectionName_mem_exposed_iff]
  refine ⟨?_, ?_, ?_⟩
  · -- a collection with an exposed property is marked
    have hmarked : collectionName ∈ o.exposed.map Property.name →
        (o.isMarked ↔ o.isCollection) := by
      intro hmem
      obtain ⟨p, hp, -⟩ := collectionName_mem_exposed_iff.mp hmem
      simp [isMarked, List.ne_nil_of_mem hp]
    by_cases hmem : collectionName ∈ o.exposed.map Property.name
    · rw [← hmarked hmem]
      split <;> simp_all [List.nodup_append]
    · split <;> simp_all [List.nodup_append]
  · intro name hne
    have hcount := List.nodup_iff_count_le_one.mp hexposed name
    rw [List.count_append]
    split <;> simp [Ne.symm hne, hcount]
  · have hcount := List.nodup_iff_count_le_one.mp hexposed collectionName
    rw [List.count_append]
    split <;> simp <;> omega

/-- A collection with a property of the name of its mark, given the names of its methods. -/
def ofItems (methods : List Text) : Outline where
  interface := {}
  properties := [⟨"int".toList, "size".toList⟩, ⟨"mixed".toList, collectionName⟩]
  accessors := .ofList methods

private theorem ofItems_names (methods : List Text) :
    ∀ p ∈ (ofItems methods).properties,
      p.name ≠ [] ∧ ∀ c ∈ p.name, c.isAlphanum ∨ c = '_' := by
  have hall : (ofItems methods).properties.all (fun p =>
      !p.name.isEmpty && p.name.all fun c => c.isAlphanum || c == '_') = true := rfl
  simpa [List.all_eq_true] using hall

/-- Without an accessor the property is no member, and the mark alone has the name. -/
theorem memberNames_nodup_ofItems :
    ((ofItems ["getSize".toList, "toArray".toList]).interface.members = [] ∧
      (∀ p ∈ (ofItems ["getSize".toList, "toArray".toList]).properties,
        p.name ≠ [] ∧ ∀ c ∈ p.name, c.isAlphanum ∨ c = '_') ∧
      ((ofItems ["getSize".toList, "toArray".toList]).properties.map Property.name).Nodup) ∧
    (((ofItems ["getSize".toList, "toArray".toList]).toInterface .once).members.map
      memberName).Nodup := by
  have hnames := ofItems_names ["getSize".toList, "toArray".toList]
  refine ⟨⟨rfl, hnames, by decide⟩, ?_⟩
  exact (memberNames_nodup_iff rfl hnames (by decide)).1.mpr (by decide)

/-- With an accessor the property and the mark both become members, and their lines are the same. -/
theorem not_forall_memberNames_nodup :
    ¬ ∀ o : Outline, o.interface.members = [] →
      (∀ p ∈ o.properties, p.name ≠ [] ∧ ∀ c ∈ p.name, c.isAlphanum ∨ c = '_') →
      (o.properties.map Property.name).Nodup →
      ((o.toInterface .once).members.map memberName).Nodup := by
  intro h
  have hnodup := h (ofItems ["getCollection".toList, "toArray".toList]) rfl
    (ofItems_names _) (by decide)
  have hmembers : ((ofItems ["getCollection".toList, "toArray".toList]).toInterface .once).members =
      [collectionMember, collectionMember] := by decide +kernel
  rw [hmembers] at hnodup
  exact absurd hnodup (by decide)

end Outline

namespace Outline

private theorem isCollection_iff {o : Outline} :
    o.isCollection ↔ AccessorMethod.toArray ∈ o.accessors := by
  simp [isCollection]

private theorem isMarked_iff {o : Outline} :
    o.isMarked ↔ AccessorMethod.toArray ∈ o.accessors ∧ o.properties ≠ [] := by
  simp [isMarked, ← isCollection_iff]

private theorem turn_each (o : Outline) (p : Property) :
    o.turn .each p = o.turn .once p ++ if o.isCollection then [collectionMember] else [] := by
  simp [turn]

private theorem members_each (o : Outline) :
    o.members .each = o.properties.flatMap (o.turn .each) := by
  simp [members, closing]

private theorem length_members_once (o : Outline) :
    (o.members .once).length = o.exposed.length + if o.isMarked then 1 else 0 := by
  rw [members_once, List.length_append, List.length_map]
  split <;> rfl

private theorem length_flatMap_turn_each {o : Outline} (h : o.isCollection) (ps : List Property) :
    (ps.flatMap (o.turn .each)).length =
      (ps.filter (o.accessors.giveAccessTo ·)).length + ps.length := by
  induction ps with
  | nil => rfl
  | cons p ps ih =>
    rw [List.flatMap_cons, List.length_append, ih, turn_each, turn_once, if_pos h]
    by_cases haccess : o.accessors.giveAccessTo p
    · simp only [haccess, if_true, List.filter_cons_of_pos, List.length_append, List.length_cons,
        List.length_nil]
      omega
    · simp only [haccess, if_false, List.filter_cons_of_neg, not_false_eq_true, List.length_append,
        List.length_cons, List.length_nil, Bool.false_eq_true]
      omega

private theorem length_members_each {o : Outline} (h : o.isCollection) :
    (o.members .each).length = o.exposed.length + o.properties.length := by
  rw [members_each, length_flatMap_turn_each h, exposed]

private theorem members_each_of_not_isCollection {o : Outline} (h : ¬ o.isCollection) :
    o.members .each = o.members .once := by
  have hturn : o.turn .each = o.turn .once := by
    funext p
    rw [turn_each, if_neg h, List.append_nil]
  simp [members, closing, hturn, h]

private theorem members_each_of_length_le_one {o : Outline} (h : o.properties.length ≤ 1) :
    o.members .each = o.members .once := by
  cases hps : o.properties with
  | nil => simp [members, closing, hps]
  | cons p ps =>
    obtain rfl : ps = [] := by simpa [hps] using h
    simp [members, closing, hps, turn_each]

/-- A line of a property may be that of the mark, so the members are told apart by their number. -/
private theorem members_once_eq_each_iff {o : Outline} :
    o.members .once = o.members .each ↔ ¬ o.isCollection ∨ o.properties.length ≤ 1 := by
  constructor
  · intro heq
    by_contra hboth
    obtain ⟨hcollection, hmany⟩ := not_or.mp hboth
    have hcollection := Decidable.not_not.mp hcollection
    have hlengths := congrArg List.length heq
    rw [length_members_once, length_members_each hcollection] at hlengths
    have hmark : (if o.isMarked then 1 else 0) ≤ 1 := by split <;> omega
    omega
  · rintro (hplain | hfew)
    · exact (members_each_of_not_isCollection hplain).symm
    · exact (members_each_of_length_le_one hfew).symm

/-- Marking once puts the mark behind the members of the properties, if there are properties at
all. Marking each puts it behind every property, with or without an accessor. The two agree exactly
when the class is no collection or declares at most one property. -/
theorem toInterface_marks (o : Outline) :
    o.toInterface .once =
        { o.interface with
          members := o.interface.members ++
            ((o.properties.filter (o.accessors.giveAccessTo ·)).map Property.member ++
              if AccessorMethod.toArray ∈ o.accessors ∧ o.properties ≠ [] then [collectionMember]
              else []) } ∧
      o.toInterface .each =
        { o.interface with
          members := o.interface.members ++ o.properties.flatMap fun p =>
            (if o.accessors.giveAccessTo p then [p.member] else []) ++
              if AccessorMethod.toArray ∈ o.accessors then [collectionMember] else [] } ∧
      (o.toInterface .once = o.toInterface .each ↔
        AccessorMethod.toArray ∉ o.accessors ∨ o.properties.length ≤ 1) := by
  refine ⟨?_, ?_, ?_⟩
  · simp only [toInterface_eq, members_once, exposed, isMarked_iff]
  · have hturn : o.turn .each = fun p =>
        (if o.accessors.giveAccessTo p then [p.member] else []) ++
          if AccessorMethod.toArray ∈ o.accessors then [collectionMember] else [] := by
      funext p
      simp only [turn_each, turn_once, isCollection_iff]
    rw [toInterface_eq, members_each, hturn]
  · simp only [toInterface_eq, Interface.mk.injEq, true_and, List.append_cancel_left_eq,
      members_once_eq_each_iff, isCollection_iff]

end Outline
end ClassTypings
