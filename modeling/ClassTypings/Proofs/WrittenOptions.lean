import ClassTypings.CommandLine.Reader
import ClassTypings.Proofs.Utf8
import Mathlib.Data.List.Nodup
import Mathlib.Data.List.TakeWhile
/-!
# Written options

An option in one argument is read as it is written, whatever its value is. Options that differ from
each other are read alike in any order, and what is behind a divider is read as the path.
-/
namespace ClassTypings

/-- An option in one argument: with its value behind an equals sign, or a flag. -/
inductive OptionArg where
  | value (opt : Opt) (bytes : Bytes)
  | flag (opt : Opt)
  deriving DecidableEq, Repr

namespace OptionArg

def opt : OptionArg → Opt
  | value opt _ => opt
  | flag opt => opt

def bytes? : OptionArg → Option Bytes
  | value _ bytes => some bytes
  | flag _ => none

def argument : OptionArg → Bytes
  | value opt bytes => Byte.dash :: Byte.dash :: (opt.long.bytes ++ Byte.equals :: bytes)
  | flag opt => Byte.dash :: Byte.dash :: opt.long.bytes

def entry (o : OptionArg) : Slot × Bytes := (.option o.opt, o.bytes?.getD [])

def lacksPath (o : OptionArg) : Bool := o.entry.1.isPath && o.entry.2.isEmpty

/-- An option that is written if it has a value. -/
def optional (opt : Opt) (bytes : Option Bytes) : List OptionArg := bytes.toList.map (value opt)

/-- A flag that is written if it is set. -/
def flagIf (opt : Opt) (given : Bool) : List OptionArg := if given then [flag opt] else []

/-- The option is one of `known`, it is written with a value exactly when it takes one, its value is
a path or a text, and it does not end the reading. -/
structure Fits (known : List Opt) (o : OptionArg) : Prop where
  mem : o.opt ∈ known
  takesValue : o.opt.takesValue = o.bytes?.isSome
  isPath_or_isText : o.entry.1.isPath ∨ (Bytes.text? o.entry.2).isSome
  ne_help : o.opt ≠ .help
  ne_version : o.opt ≠ .version

end OptionArg

open OptionArg (optional flagIf)

section arguments

private theorem Opt.long_injective : Function.Injective Opt.long := by
  -- among all options, each is found by its own name, so the name tells which option it is
  have hfound (opt : Opt) :
      ofLong? (ofProgram ++ ofConvert ++ ofBatch) opt.long.bytes = some opt := by
    cases opt <;> rfl
  intro a b h
  have hsame := hfound a
  rw [h, hfound b] at hsame
  exact (Option.some.inj hsame).symm

private theorem Opt.ofLong?_long {known : List Opt} {opt : Opt} (h : opt ∈ known) :
    Opt.ofLong? known opt.long.bytes = some opt := by
  obtain ⟨found, hfound⟩ := Option.isSome_iff_exists.mp
    (List.find?_isSome.mpr ⟨opt, h, decide_eq_true rfl⟩ :
      (known.find? (·.long.bytes = opt.long.bytes)).isSome)
  have hname : found.long.bytes = opt.long.bytes := by simpa using List.find?_some hfound
  rw [Opt.ofLong?, hfound, Opt.long_injective (Text.bytes_injective hname)]

private theorem Opt.long_noEquals (opt : Opt) : ∀ b ∈ opt.long.bytes,
    (b != Byte.equals) = true := by
  rw [← List.all_eq_true]
  cases opt <;> rfl

private theorem splitAtEquals_of_noEquals {name : Bytes}
    (h : ∀ b ∈ name, (b != Byte.equals) = true) :
    splitAtEquals name = (name, none) := by
  rw [splitAtEquals, List.dropWhile_eq_nil_iff.mpr h]

private theorem splitAtEquals_append {name : Bytes} (h : ∀ b ∈ name, (b != Byte.equals) = true)
    (value : Bytes) : splitAtEquals (name ++ Byte.equals :: value) = (name, some value) := by
  rw [splitAtEquals, List.dropWhile_append_of_pos h, List.takeWhile_append_of_pos h]
  simp

private theorem Shape.ofArgument_of_ne_nil {rest : Bytes} (h : rest ≠ []) :
    Shape.ofArgument (Byte.dash :: Byte.dash :: rest) =
      .long (splitAtEquals rest).1 (splitAtEquals rest).2 := by
  simp [ofArgument, h]

private theorem OptionArg.shape_argument (o : OptionArg) :
    Shape.ofArgument o.argument = .long o.opt.long.bytes o.bytes? := by
  cases o with
  | value opt bytes =>
    rw [argument, Shape.ofArgument_of_ne_nil (by simp), splitAtEquals_append opt.long_noEquals]
    rfl
  | flag opt =>
    have hne : opt.long.bytes ≠ [] := by cases opt <;> decide
    rw [argument, Shape.ofArgument_of_ne_nil hne, splitAtEquals_of_noEquals opt.long_noEquals]
    rfl

end arguments

section reading

namespace Intake

variable {topic : HelpTopic} {known : List Opt} {done options : List OptionArg} {o : OptionArg}
  {p : Bytes}

/-- The intake that options have filled. -/
def ofOptions (options : List OptionArg) : Intake := { filled := options.map OptionArg.entry }

/-- The intake that options and then the path of the command have filled. -/
def ofWritten (options : List OptionArg) (p : Bytes) : Intake :=
  { filled := options.map OptionArg.entry ++ [(.path, p)] }

private theorem has_ofOptions {opt : Opt} (h : opt ∉ done.map OptionArg.opt) :
    (ofOptions done).has (.option opt) = false := by
  have hnone : (done.map OptionArg.entry).lookup (.option opt) = none := by
    rw [List.lookup_eq_none_iff]
    intro entry hentry
    obtain ⟨o, ho, rfl⟩ := List.mem_map.mp hentry
    have hne : opt ≠ o.opt := fun heq => h (List.mem_map.mpr ⟨o, ho, heq.symm⟩)
    simpa [OptionArg.entry] using hne
  simp only [has, value?, ofOptions, hnone, Option.isSome_none]

private theorem lookup_path_options (options : List OptionArg) :
    (options.map OptionArg.entry).lookup .path = none := by
  rw [List.lookup_eq_none_iff]
  intro entry hentry
  obtain ⟨o, -, rfl⟩ := List.mem_map.mp hentry
  rfl

private theorem has_path_ofOptions (options : List OptionArg) :
    (ofOptions options).has .path = false := by
  rw [has, value?, ofOptions, lookup_path_options]
  rfl

private theorem long_ofOptions (hfits : o.Fits known) (hnew : o.opt ∉ done.map OptionArg.opt) :
    (ofOptions done).long topic known o.opt.long.bytes o.bytes? =
      if o.lacksPath then .error (.usage .invalidValue) else .ok (ofOptions (done ++ [o])) := by
  have hfill : (ofOptions done).fill o.entry.1 o.entry.2 =
      if o.lacksPath then .error (.usage .invalidValue) else .ok (ofOptions (done ++ [o])) := by
    have hfree : (ofOptions done).has o.entry.1 = false := has_ofOptions hnew
    have hvalue : (!o.entry.1.isPath && (Bytes.text? o.entry.2).isNone) = false := by
      rcases hfits.isPath_or_isText with hpath | htext
      · rw [hpath]
        rfl
      · rw [Option.isNone_eq_false_iff.mpr htext, Bool.and_false]
    rw [fill, hfree, hvalue, ← OptionArg.lacksPath]
    cases o.lacksPath with
    | true => rfl
    | false => simp [ofOptions]
  have htakes := hfits.takesValue
  have hknown := Opt.ofLong?_long hfits.mem
  rw [← hfill]
  cases o with
  | value opt bytes =>
    simp only [OptionArg.opt, OptionArg.bytes?, Option.isSome_some] at htakes hknown
    simp only [OptionArg.opt, OptionArg.bytes?, long, hknown, htakes, if_true]
    rfl
  | flag opt =>
    simp only [OptionArg.opt, OptionArg.bytes?, Option.isSome_none] at htakes hknown
    have hhelp : opt ≠ .help := hfits.ne_help
    have hversion : opt ≠ .version := hfits.ne_version
    simp only [OptionArg.opt, OptionArg.bytes?, long, hknown, htakes, flag, hhelp, hversion,
      if_false, Bool.false_eq_true]
    rfl

/-- The options are read one after the other, up to the first that lacks its path. -/
private theorem read_options (hfits : ∀ o ∈ options, o.Fits known)
    (hnodup : ((done ++ options).map OptionArg.opt).Nodup) (args : List Bytes) :
    read topic known false (ofOptions done) (options.map OptionArg.argument ++ args) =
      if options.any OptionArg.lacksPath then .error (.usage .invalidValue)
      else read topic known false (ofOptions (done ++ options)) args := by
  induction options generalizing done with
  | nil => simp
  | cons o options ih =>
    have hnew : o.opt ∉ done.map OptionArg.opt := by
      rw [List.map_append, List.map_cons] at hnodup
      intro hmem
      exact (List.nodup_append.mp hnodup).2.2 _ hmem _ List.mem_cons_self rfl
    rw [List.append_cons] at hnodup ⊢
    have hlong : (ofOptions done).long topic known o.opt.long.bytes o.bytes? = _ :=
      long_ofOptions (hfits o List.mem_cons_self) hnew
    rw [List.map_cons, List.cons_append, read, OptionArg.shape_argument]
    simp only [Bool.false_eq_true, if_false, List.any_cons, hlong]
    by_cases hlacks : o.lacksPath = true
    · simp only [hlacks, if_true, Bool.true_or]
      rfl
    · simp only [hlacks, Bool.false_or]
      exact ih (fun t ht => hfits t (List.mem_cons_of_mem o ht)) hnodup

private theorem read_divided :
    read topic known false (ofOptions options) ["--", p] =
      if p.isEmpty then .error (.usage .invalidValue) else .ok (ofWritten options p) := by
  have hfree := has_path_ofOptions options
  have hpath : (ofOptions options).path p =
      .ok { ofOptions options with waiting := some (.path, some p) } := by
    rw [path, hasPath, hfree]
    rfl
  have hread : read topic known false (ofOptions options) ["--", p] =
      (ofOptions options).fill .path p := by
    change ((ofOptions options).path p >>= fun i => i.settle) = _
    rw [hpath]
    rfl
  rw [hread, fill, hfree]
  rfl

private theorem read_arguments (hfits : ∀ o ∈ options, o.Fits known)
    (hnodup : (options.map OptionArg.opt).Nodup) :
    read topic known false {} (options.map OptionArg.argument ++ [("--" : Bytes), p]) =
      if options.any OptionArg.lacksPath || p.isEmpty then .error (.usage .invalidValue)
      else .ok (ofWritten options p) := by
  have hoptions : read topic known false (ofOptions []) _ = _ :=
    read_options hfits (by simpa using hnodup) ["--", p]
  rw [List.nil_append, read_divided] at hoptions
  refine hoptions.trans ?_
  cases options.any OptionArg.lacksPath with
  | true => rfl
  | false => simp

end Intake

end reading

section order

variable {known : List Opt} {opt : Opt} {bytes : Option Bytes} {given : Bool}

private theorem lookup_eq_of_perm {α β : Type} [BEq α] [LawfulBEq α] {l l' : List (α × β)}
    (hperm : l.Perm l') (hkeys : (l.map Prod.fst).Nodup) (a : α) : l.lookup a = l'.lookup a := by
  induction hperm with
  | nil => rfl
  | cons entry _ ih =>
    obtain ⟨key, value⟩ := entry
    simp only [List.lookup_cons, ih (List.nodup_cons.mp hkeys).2]
  | swap x y l =>
    obtain ⟨first, value⟩ := x
    obtain ⟨second, value'⟩ := y
    -- the keys differ, so at most one of the two entries is the one that is looked up
    have hne : second ≠ first := by
      have hnot := (List.nodup_cons.mp hkeys).1
      exact fun heq => hnot (heq ▸ List.mem_cons_self)
    simp only [List.lookup_cons]
    by_cases hfirst : a = first
    · have hsecond : (a == second) = false := by simpa [hfirst] using hne.symm
      simp only [hsecond]
    · have hnot : (a == first) = false := by simpa using hfirst
      simp only [hnot]
  | trans hfirst _ ih ih' =>
    exact (ih hkeys).trans (ih' ((hfirst.map Prod.fst).nodup_iff.mp hkeys))

namespace Intake

@[simp] theorem value?_ofWritten_path (options : List OptionArg) (p : Bytes) :
    (ofWritten options p).value? .path = some p := by
  simp [value?, ofWritten, List.lookup_append, lookup_path_options]

@[simp] theorem value?_ofWritten_option (options : List OptionArg) (p : Bytes) (opt : Opt) :
    (ofWritten options p).value? (.option opt) =
      (options.map OptionArg.entry).lookup (.option opt) := by
  have hother : (Slot.option opt == Slot.path) = false := rfl
  simp [value?, ofWritten, List.lookup_append, List.lookup_cons, hother]

private theorem value?_ofWritten_of_perm {options options' : List OptionArg}
    (hperm : options.Perm options') (hnodup : (options.map OptionArg.opt).Nodup) (p : Bytes) :
    (ofWritten options p).value? = (ofWritten options' p).value? := by
  funext slot
  cases slot with
  | path => simp
  | option opt =>
    have hkeys : ((options.map OptionArg.entry).map Prod.fst).Nodup := by
      rw [List.map_map]
      have hkeys := hnodup.map (f := Slot.option) fun a b h => Slot.option.inj h
      rwa [List.map_map] at hkeys
    simpa using lookup_eq_of_perm (hperm.map OptionArg.entry) hkeys (.option opt)

theorem read_of_perm {options options' : List OptionArg} (topic : HelpTopic)
    (hperm : options.Perm options') (hfits : ∀ o ∈ options', o.Fits known)
    (hnodup : (options'.map OptionArg.opt).Nodup) (p : Bytes) :
    ∃ i : Intake, i.value? = (ofWritten options' p).value? ∧
      read topic known false {} (options.map OptionArg.argument ++ [("--" : Bytes), p]) =
        if options'.any OptionArg.lacksPath || p.isEmpty then .error (.usage .invalidValue)
        else .ok i := by
  have hnodup' : (options.map OptionArg.opt).Nodup :=
    (hperm.map OptionArg.opt).nodup_iff.mpr hnodup
  refine ⟨ofWritten options p, value?_ofWritten_of_perm hperm hnodup' p, ?_⟩
  rw [← hperm.any_eq]
  exact read_arguments (fun o ho => hfits o (hperm.mem_iff.mp ho)) hnodup'

variable {i j : Intake}

theorem has_congr (h : i.value? = j.value?) (slot : Slot) : i.has slot = j.has slot := by
  rw [has, has, h]

theorem fileJob_congr (h : i.value? = j.value?) : i.fileJob = j.fileJob := by
  simp only [fileJob, overrides, text?, has, h]

theorem treeJob_congr (h : i.value? = j.value?) : i.treeJob = j.treeJob := by
  simp only [treeJob, overrides, text?, has, h]

end Intake

namespace OptionArg

theorem fits_optional (hmem : opt ∈ known) (htakes : opt.takesValue = true)
    (hvalue : (Slot.option opt).isPath ∨ ∀ value ∈ bytes, (Bytes.text? value).isSome) :
    ∀ o ∈ optional opt bytes, o.Fits known := by
  intro o ho
  obtain ⟨value, hmem', rfl⟩ := List.mem_map.mp ho
  refine ⟨hmem, htakes, hvalue.imp id fun htext => htext value (Option.mem_toList.mp hmem'), ?_, ?_⟩
  · rintro rfl
    exact nomatch htakes
  · rintro rfl
    exact nomatch htakes

theorem fits_optionalText {text : Option Text} (hmem : opt ∈ known)
    (htakes : opt.takesValue = true) :
    ∀ o ∈ optional opt (text.map Text.bytes), o.Fits known := by
  refine fits_optional hmem htakes (.inr fun value hvalue => ?_)
  obtain ⟨t, -, rfl⟩ := Option.map_eq_some_iff.mp hvalue
  rw [Bytes.text?_bytes, Option.isSome_some]

theorem fits_flagIf (hmem : opt ∈ known) (htakes : opt.takesValue = false) (hhelp : opt ≠ .help)
    (hversion : opt ≠ .version) : ∀ o ∈ flagIf opt given, o.Fits known := by
  cases given with
  | false => exact nofun
  | true =>
    intro o ho
    obtain rfl := List.mem_singleton.mp ho
    exact ⟨hmem, htakes, .inr rfl, hhelp, hversion⟩

theorem opts_optional (opt : Opt) (bytes : Option Bytes) :
    ((optional opt bytes).map OptionArg.opt).Sublist [opt] := by
  cases bytes with
  | none => exact List.nil_sublist [opt]
  | some value => exact List.Sublist.refl [opt]

theorem opts_flagIf (opt : Opt) (given : Bool) :
    ((flagIf opt given).map OptionArg.opt).Sublist [opt] := by
  cases given with
  | false => exact List.nil_sublist [opt]
  | true => exact List.Sublist.refl [opt]

private theorem lookup_singleton (opt other : Opt) (value : Bytes) :
    [(Slot.option opt, value)].lookup (.option other) =
      if other = opt then some value else none := by
  by_cases h : other = opt
  · simp [h]
  · have hnot : (Slot.option other == Slot.option opt) = false := by simpa using h
    simp [List.lookup_cons, hnot, h]

@[simp] theorem lookup_optional (opt other : Opt) (bytes : Option Bytes) :
    ((optional opt bytes).map entry).lookup (.option other) =
      if other = opt then bytes else none := by
  cases bytes with
  | none => simp [optional]
  | some value => exact lookup_singleton opt other value

@[simp] theorem lookup_flagIf (opt other : Opt) (given : Bool) :
    ((flagIf opt given).map entry).lookup (.option other) =
      if other = opt then (if given then some [] else none) else none := by
  cases given with
  | false => simp [flagIf]
  | true => exact lookup_singleton opt other []

@[simp] theorem bind_text?_map_bytes (text : Option Text) :
    (text.map Text.bytes).bind Bytes.text? = text := by
  cases text with
  | none => rfl
  | some t => exact Bytes.text?_bytes t

@[simp] theorem isSome_flag (given : Bool) :
    (if given then some ([] : Bytes) else none).isSome = given := by cases given <;> rfl

@[simp] theorem any_lacksPath_optional (opt : Opt) (bytes : Option Bytes) :
    (optional opt bytes).any lacksPath =
      ((Slot.option opt).isPath && bytes.any List.isEmpty) := by
  cases bytes with
  | none => simp [optional]
  | some value => simp [optional, lacksPath, entry, OptionArg.opt, bytes?]

@[simp] theorem any_lacksPath_flagIf (opt : Opt) (given : Bool) :
    (flagIf opt given).any lacksPath = ((Slot.option opt).isPath && given) := by
  cases given with
  | false => simp [flagIf]
  | true => simp [flagIf, lacksPath, entry, OptionArg.opt, bytes?]

end OptionArg

end order

end ClassTypings
