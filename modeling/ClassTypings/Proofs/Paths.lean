import ClassTypings.FileTree.Workspace
import ClassTypings.Path
import ClassTypings.Proofs.Utf8
import Mathlib.Data.List.Basic
import Mathlib.Data.List.Induction
/-!
# Paths in a directory

A name that is joined to a directory is one more step, whatever the directory is called. The
declaration of an input goes to a name that keeps the stem of the input and that never ends like a
source file.

The file name of a path is its last piece that says something, if that piece is a name. Components
and steps are two views of one spelling: the steps keep the pieces `.`, and the components keep such
a piece only at the front.
-/
namespace ClassTypings

theorem Bytes.of_mem_splitOn {b : UInt8} {bytes piece : Bytes} (h : piece ∈ bytes.splitOn b) :
    b ∉ piece ∧ ∀ d ∈ piece, d ∈ bytes := by
  induction bytes generalizing piece with
  | nil =>
    obtain rfl : piece = [] := by simpa [List.splitOn_nil] using h
    simp
  | cons d bytes ih =>
    rw [List.splitOn_cons_eq_if_modifyHead] at h
    split at h
    · rcases List.mem_cons.mp h with rfl | h
      · simp
      · exact ⟨(ih h).1, fun e he => List.mem_cons_of_mem _ ((ih h).2 e he)⟩
    · rename_i hd
      obtain ⟨first, more, hsplit⟩ := List.exists_cons_of_ne_nil (List.splitOn_ne_nil b bytes)
      rw [hsplit, List.modifyHead_cons] at h
      rcases List.mem_cons.mp h with rfl | h
      · have hfirst := ih (hsplit ▸ List.mem_cons_self)
        refine ⟨?_, fun e he => ?_⟩
        · have hne : b ≠ d := fun hbd => hd (by simp [hbd])
          simp [hne, hfirst.1]
        · rcases List.mem_cons.mp he with rfl | he
          · exact List.mem_cons_self
          · exact List.mem_cons_of_mem _ (hfirst.2 e he)
      · have hlater := ih (hsplit ▸ List.mem_cons_of_mem _ h)
        exact ⟨hlater.1, fun e he => List.mem_cons_of_mem _ (hlater.2 e he)⟩

/-- A text that can stand between the slashes of a path and name an entry of a directory. -/
structure IsPlain (name : Bytes) : Prop where
  ne_nil : name ≠ []
  ne_here : name ≠ [Byte.dot]
  ne_up : name ≠ [Byte.dot, Byte.dot]
  noSlash : Byte.slash ∉ name

theorem isName_iff {name : Bytes} :
    IsName name ↔
      IsPlain name ∧ Byte.nul ∉ name ∧ name.length ≤ Workspace.maxNameSize := by
  constructor
  · intro h
    obtain ⟨hnil, hhere, hup, hslash, hnul, hsize⟩ := h
    exact ⟨⟨hnil, hhere, hup, hslash⟩, hnul, hsize⟩
  · intro h
    obtain ⟨hplain, hnul, hsize⟩ := h
    exact ⟨hplain.ne_nil, hplain.ne_here, hplain.ne_up, hplain.noSlash, hnul, hsize⟩

namespace Component

theorem ofPiece?_of_isPlain {name : Bytes} (h : IsPlain name) :
    ofPiece? name = some (.name name) := by
  rw [ofPiece?, if_neg h.ne_nil, if_neg h.ne_here, if_neg h.ne_up]

theorem exists_ofPiece? {piece : Bytes} (h : piece ≠ []) : ∃ c, ofPiece? piece = some c := by
  rw [ofPiece?, if_neg h]
  split_ifs
  all_goals exact ⟨_, rfl⟩

theorem of_ofPiece?_eq_name {piece name : Bytes} (h : ofPiece? piece = some (.name name)) :
    piece = name ∧ name ≠ [] ∧ name ≠ [Byte.dot] ∧ name ≠ [Byte.dot, Byte.dot] := by
  unfold ofPiece? at h
  split_ifs at h with hnil hhere hup <;> simp_all

end Component

namespace Path

theorem isIdle_of_isPlain {name : Bytes} (h : IsPlain name) : isIdle name = false := by
  simp [isIdle, h.ne_nil, h.ne_here]

theorem exists_step_of_busy {piece : Bytes} (h : isIdle piece = false) :
    ∃ c, Component.ofPiece? piece = some c ∧ c ≠ .here := by
  obtain ⟨hnil, hhere⟩ : piece ≠ [] ∧ piece ≠ [Byte.dot] := by simpa [isIdle] using h
  obtain ⟨c, hc⟩ := Component.exists_ofPiece? hnil
  refine ⟨c, hc, ?_⟩
  rintro rfl
  rw [Component.ofPiece?, if_neg hnil, if_neg hhere] at hc
  split at hc <;> simp at hc

theorem isPlain_of_mem_steps {p : Path} {name : Bytes} (h : .name name ∈ p.steps) :
    IsPlain name ∧ ∀ c ∈ name, c ∈ p.bytes := by
  obtain ⟨piece, hpiece, hname⟩ := List.mem_filterMap.mp h
  obtain ⟨rfl, hnil, hhere, hup⟩ := Component.of_ofPiece?_eq_name hname
  obtain ⟨hslash, hsub⟩ := Bytes.of_mem_splitOn hpiece
  exact ⟨⟨hnil, hhere, hup, hslash⟩, hsub⟩

private theorem isPlain_of_mem_components {p : Path} {name : Bytes}
    (h : .name name ∈ p.components) :
    IsPlain name ∧ name ∈ p.pieces := by
  obtain ⟨piece, hpiece, hof⟩ :
      ∃ piece ∈ p.pieces, Component.ofPiece? piece = some (.name name) := by
    simp only [components, List.mem_append, List.mem_filterMap, List.mem_filter] at h
    rcases h with h | ⟨piece, ⟨hpiece, -⟩, hof⟩
    · split at h
      · simp at h
      · obtain ⟨piece, hhead, hof⟩ := Option.bind_eq_some_iff.mp (by simpa using h)
        exact ⟨piece, List.mem_of_mem_head? hhead, hof⟩
    · exact ⟨piece, List.mem_of_mem_tail hpiece, hof⟩
  obtain ⟨rfl, hnil, hhere, hup⟩ := Component.of_ofPiece?_eq_name hof
  exact ⟨⟨hnil, hhere, hup, (Bytes.of_mem_splitOn hpiece).1⟩, hpiece⟩

theorem getLast?_components_of_fileName? {p : Path} {name : Bytes} (h : p.fileName? = some name) :
    p.components.getLast? = some (.name name) := by
  unfold fileName? at h
  split at h
  · rename_i hlast
    exact Option.some.inj h ▸ hlast
  · simp at h

private theorem isPlain_of_fileName? {p : Path} {name : Bytes} (h : p.fileName? = some name) :
    IsPlain name :=
  (isPlain_of_mem_components (List.mem_of_getLast? (getLast?_components_of_fileName? h))).1

section Join

variable {dir : Path} {name : Bytes}

theorem join_nil (hslash : Byte.slash ∉ name) : join ⟨[]⟩ name = ⟨name⟩ := by
  have hhead : name.head? ≠ some Byte.slash := fun h => hslash (List.mem_of_mem_head? h)
  simp [join, hhead]

theorem bytes_join (hdir : dir.bytes ≠ []) (hslash : Byte.slash ∉ name) :
    (dir.join name).bytes =
      dir.bytes ++ if dir.endsWithSlash then name else Byte.slash :: name := by
  have hhead : name.head? ≠ some Byte.slash := fun h => hslash (List.mem_of_mem_head? h)
  have hempty : dir.bytes.isEmpty = false := by simpa using hdir
  simp only [join, beq_iff_eq, hhead, if_false, hempty, Bool.false_or]
  cases dir.endsWithSlash <;> rfl

/-- The last piece of the directory is empty where the directory ends with a slash. The name comes
into its place. -/
theorem pieces_join (hdir : dir.bytes ≠ []) (hslash : Byte.slash ∉ name) :
    ∃ first more last, dir.pieces = first :: (more ++ last) ∧ (last = [] ∨ last = [[]]) ∧
      (dir.join name).pieces = first :: (more ++ [name]) := by
  have hlast : name.splitOn Byte.slash = [name] := List.splitOn_eq_singleton hslash
  by_cases hends : dir.endsWithSlash
  · obtain ⟨front, hfront⟩ : ∃ front, dir.bytes = front ++ [Byte.slash] :=
      List.getLast?_eq_some_iff.mp (by simpa [endsWithSlash] using hends)
    obtain ⟨first, more, hsplit⟩ :=
      List.exists_cons_of_ne_nil (List.splitOn_ne_nil Byte.slash front)
    refine ⟨first, more, [[]], ?_, .inr rfl, ?_⟩
    · rw [pieces, hfront, List.splitOn_append_cons_self, hsplit, List.splitOn_nil]
      rfl
    · rw [pieces, bytes_join hdir hslash, if_pos hends, hfront, List.append_assoc,
        List.singleton_append, List.splitOn_append_cons_self, hsplit, hlast]
      rfl
  · obtain ⟨first, more, hsplit⟩ :=
      List.exists_cons_of_ne_nil (List.splitOn_ne_nil Byte.slash dir.bytes)
    refine ⟨first, more, [], ?_, .inl rfl, ?_⟩
    · rw [pieces, hsplit, List.append_nil]
    · rw [pieces, bytes_join hdir hslash, if_neg hends, List.splitOn_append_cons_self, hsplit,
        hlast]
      rfl

theorem steps_join (hdir : dir.bytes ≠ []) (hname : IsPlain name) :
    (dir.join name).steps = dir.steps ++ [.name name] := by
  obtain ⟨first, more, last, hpieces, hlast, hjoin⟩ := pieces_join hdir hname.noSlash
  have hidle : last.filterMap Component.ofPiece? = [] := by
    rcases hlast with rfl | rfl <;> rfl
  simp only [steps, hpieces, hjoin, ← List.cons_append, List.filterMap_append, hidle,
    List.append_nil, List.filterMap_cons, List.filterMap_nil,
    Component.ofPiece?_of_isPlain hname]

theorem isAbsolute_join (hdir : dir.bytes ≠ []) (hslash : Byte.slash ∉ name) :
    (dir.join name).isAbsolute = dir.isAbsolute := by
  obtain ⟨c, t, hsplit⟩ := List.exists_cons_of_ne_nil hdir
  rw [isAbsolute, isAbsolute, bytes_join hdir hslash, hsplit]
  rfl

theorem endsWithSlash_join (hdir : dir.bytes ≠ []) (hname : IsPlain name) :
    (dir.join name).endsWithSlash = false := by
  have hlast : (dir.join name).bytes.getLast? = name.getLast? := by
    obtain ⟨front, c, hsplit⟩ := List.eq_nil_or_concat name |>.resolve_left hname.ne_nil
    rw [bytes_join hdir hname.noSlash, hsplit]
    split <;> simp [List.getLast?_cons]
  rw [endsWithSlash, hlast, beq_eq_false_iff_ne]
  exact fun h => hname.noSlash (List.mem_of_getLast? h)

private theorem components_join_nil (hname : IsPlain name) :
    (join ⟨[]⟩ name).components = [.name name] := by
  have hhead : name.head? ≠ some Byte.slash := fun h => hname.noSlash (List.mem_of_mem_head? h)
  have hpieces : pieces ⟨name⟩ = [name] := List.splitOn_eq_singleton hname.noSlash
  simp [join_nil hname.noSlash, components, isAbsolute, hhead, hpieces,
    Component.ofPiece?_of_isPlain hname]

theorem components_join (dir : Path) (hname : IsPlain name) :
    (dir.join name).components = dir.components ++ [.name name] := by
  obtain ⟨text⟩ := dir
  by_cases hdir : text = []
  · rw [hdir]
    exact components_join_nil hname
  · obtain ⟨first, more, last, hpieces, hlast, hjoin⟩ := pieces_join hdir hname.noSlash
    have hidle : last.filter (!isIdle ·) = [] := by
      rcases hlast with rfl | rfl <;> rfl
    have hbusy := isIdle_of_isPlain hname
    simp only [components, isAbsolute_join hdir hname.noSlash, hpieces, hjoin, List.head?_cons,
      List.tail_cons, List.filter_append, List.filterMap_append, hidle, List.filterMap_nil,
      List.append_nil, List.append_assoc, List.filter_cons, hbusy, List.filter_nil,
      List.filterMap_cons, Component.ofPiece?_of_isPlain hname, Bool.not_false, if_true]

theorem fileName?_join (dir : Path) (hname : IsPlain name) :
    (dir.join name).fileName? = some name := by
  simp [fileName?, components_join dir hname]

theorem same_join_iff {other : Bytes} (dir : Path) (hname : IsPlain name)
    (hother : IsPlain other) : (dir.join name).same (dir.join other) ↔ name = other := by
  simp [same, components_join dir hname, components_join dir hother]

theorem mem_bytes_join (hdir : dir.bytes ≠ []) (hslash : Byte.slash ∉ name) {b : UInt8}
    (hb : b ≠ Byte.slash) :
    b ∈ (dir.join name).bytes ↔ b ∈ dir.bytes ∨ b ∈ name := by
  rw [bytes_join hdir hslash]
  split <;> simp [hb]

theorem length_le_join (hdir : dir.bytes ≠ []) (hslash : Byte.slash ∉ name) :
    dir.bytes.length ≤ (dir.join name).bytes.length := by
  rw [bytes_join hdir hslash, List.length_append]
  exact Nat.le_add_right _ _

end Join

/-- The path of a location that lies below the place that a path leads to. -/
def below (p : Path) : Location → Path
  | [] => p
  | name :: above => (p.below above).join name

section Below

variable {p : Path} {names names' : Location}

theorem bytes_below_ne_nil (hp : p.bytes ≠ []) (hnames : ∀ name ∈ names, IsPlain name) :
    (p.below names).bytes ≠ [] := by
  induction names with
  | nil => exact hp
  | cons name above ih =>
    obtain ⟨hname, habove⟩ := List.forall_mem_cons.mp hnames
    rw [below, bytes_join (ih habove) hname.noSlash]
    simp [ih habove]

private theorem components_below (p : Path) (hnames : ∀ name ∈ names, IsPlain name) :
    (p.below names).components = p.components ++ (names.map Component.name).reverse := by
  induction names with
  | nil => simp [below]
  | cons name above ih =>
    obtain ⟨hname, habove⟩ := List.forall_mem_cons.mp hnames
    rw [below, components_join _ hname, ih habove, List.map_cons, List.reverse_cons,
      List.append_assoc]

theorem below_inj (p : Path) (hnames : ∀ name ∈ names, IsPlain name)
    (hnames' : ∀ name ∈ names', IsPlain name)
    (h : (p.below names).components = (p.below names').components) : names = names' := by
  rw [components_below p hnames, components_below p hnames'] at h
  have hmap := List.reverse_inj.mp (List.append_cancel_left h)
  exact (List.map_inj_right fun _ _ => Component.name.inj).mp hmap

end Below

theorem splitName_spec {name : Bytes} (hne : name ≠ []) :
    (splitName name).1 ≠ [] ∧
      ((splitName name).2 = none ∧ (splitName name).1 = name ∨
        ∃ ext, (splitName name).2 = some ext ∧ Byte.dot ∉ ext ∧
          name = (splitName name).1 ++ Byte.dot :: ext) := by
  unfold splitName
  split
  · rename_i d c stem hdrop
    have hhead := List.head?_dropWhile_not (· != Byte.dot) name.reverse
    obtain rfl : d = Byte.dot := by simpa [hdrop] using hhead
    have hsplit := List.takeWhile_append_dropWhile (p := (· != Byte.dot)) (l := name.reverse)
    rw [hdrop] at hsplit
    refine ⟨by simp, .inr ⟨_, rfl, ?_, ?_⟩⟩
    · intro hdot
      have := List.all_eq_true.mp (List.all_takeWhile (p := (· != Byte.dot)) (l := name.reverse)) _
        (List.mem_reverse.mp hdot)
      simp at this
    · have := congrArg List.reverse hsplit
      simpa using this.symm
  · exact ⟨hne, .inl ⟨rfl, rfl⟩⟩

theorem splitName_eq_some_iff {name ext : Bytes} :
    (splitName name).2 = some ext ↔
      Byte.dot ∉ ext ∧ ∃ stem, stem ≠ [] ∧ name = stem ++ Byte.dot :: ext := by
  constructor
  · intro h
    have hne : name ≠ [] := by
      rintro rfl
      simp [splitName] at h
    obtain ⟨hstem, ⟨hnone, -⟩ | ⟨ext', hsome, hdot, hsplit⟩⟩ := splitName_spec hne
    · simp [hnone] at h
    · obtain rfl : ext' = ext := Option.some.inj (hsome.symm.trans h)
      exact ⟨hdot, _, hstem, hsplit⟩
  · rintro ⟨hdot, stem, hstem, rfl⟩
    have hext : ∀ c ∈ ext.reverse, (c != Byte.dot) = true := by
      intro c hc
      rw [bne_iff_ne]
      rintro rfl
      exact hdot (List.mem_reverse.mp hc)
    have hreverse : (stem ++ Byte.dot :: ext).reverse = ext.reverse ++ Byte.dot :: stem.reverse := by
      simp
    have hdrop : (stem ++ Byte.dot :: ext).reverse.dropWhile (· != Byte.dot) =
        Byte.dot :: stem.reverse := by
      rw [hreverse, List.dropWhile_append_of_pos hext, List.dropWhile_cons_of_neg (by simp)]
    have htake : (stem ++ Byte.dot :: ext).reverse.takeWhile (· != Byte.dot) = ext.reverse := by
      rw [hreverse, List.takeWhile_append_of_pos hext, List.takeWhile_cons_of_neg (by simp),
        List.append_nil]
    obtain ⟨c, more, hmore⟩ := List.exists_cons_of_ne_nil (List.reverse_ne_nil_iff.mpr hstem)
    simp only [splitName, hdrop, hmore, htake, List.reverse_reverse]

private theorem subset_of_splitName {name : Bytes} (hne : name ≠ []) :
    ∀ c ∈ (splitName name).1, c ∈ name := by
  intro c hc
  rcases (splitName_spec hne).2 with ⟨-, hwhole⟩ | ⟨ext, -, -, hsplit⟩
  · exact hwhole ▸ hc
  · rw [hsplit]
    exact List.mem_append_left _ hc

private theorem getLast?_splitOn_of_extension {name ext : Bytes}
    (h : (splitName name).2 = some ext) :
    (name.splitOn Byte.dot).getLast? = some ext := by
  obtain ⟨hdot, stem, -, rfl⟩ := splitName_eq_some_iff.mp h
  rw [List.splitOn_append_cons_self, List.splitOn_eq_singleton hdot, List.getLast?_concat]

theorem exists_stem {p : Path} {name : Bytes} (h : p.fileName? = some name) :
    ∃ stem, p.stem? = some stem ∧ stem ≠ [] ∧ ∀ c ∈ stem, c ∈ name := by
  have hne := (isPlain_of_fileName? h).ne_nil
  exact ⟨(splitName name).1, by rw [stem?, h, Option.map_some], (splitName_spec hne).1,
    subset_of_splitName hne⟩

private theorem noSlash_stem (p : Path) : Byte.slash ∉ p.stem?.getD [] := by
  cases hfile : p.fileName? with
  | none => simp [stem?, hfile]
  | some name =>
    obtain ⟨stem, hstem, -, hsub⟩ := exists_stem hfile
    rw [hstem, Option.getD_some]
    exact fun h => (isPlain_of_fileName? hfile).noSlash (hsub _ h)

/-- The path ends with the name of an entry of a directory. -/
def Named (p : Path) : Prop := ∃ name, p.fileName? = some name ∧ IsName name

theorem Named.isSome {p : Path} (h : p.Named) : p.fileName?.isSome := by
  obtain ⟨name, hfile, -⟩ := h
  rw [hfile, Option.isSome_some]

end Path

/-- The suffix and the extension make a name of a stem, and not the name of a source file. -/
structure NamesOutputs (suffix extension : Text) : Prop where
  noSlash : '/' ∉ suffix ∧ '/' ∉ extension
  noNul : '\x00' ∉ suffix ∧ '\x00' ∉ extension
  ne_nil : extension ≠ []
  notSource : (extension.splitOn '.').getLast? ≠ some Workspace.sourceExtension

section OutputName

variable {input other : Path} {suffix extension : Text}

private theorem bytes_outputName (input : Path) (suffix extension : Text) :
    (outputName input suffix extension).bytes =
      (shownStem input).bytes ++ suffix.bytes ++ Byte.dot :: extension.bytes := by
  rw [outputName, Text.bytes_append, Text.bytes_append, Text.bytes_cons (by decide)]

private theorem noSlash_shownStem (input : Path) : '/' ∉ shownStem input :=
  (Bytes.mem_text_iff (by decide) _).not.mpr input.noSlash_stem

theorem noSlash_outputName (input : Path) (hsuffix : '/' ∉ suffix) (hextension : '/' ∉ extension) :
    Byte.slash ∉ (outputName input suffix extension).bytes := by
  rw [Text.mem_bytes_iff (by decide), outputName]
  simp [noSlash_shownStem, hsuffix, hextension]

theorem isPlain_outputName (hinput : input.fileName?.isSome) (hsuffix : '/' ∉ suffix)
    (hextension : '/' ∉ extension) (hne : extension ≠ []) :
    IsPlain (outputName input suffix extension).bytes := by
  have hstem : (shownStem input).bytes ≠ [] := by
    obtain ⟨name, hname⟩ := Option.isSome_iff_exists.mp hinput
    obtain ⟨stem, hstem, hnonempty, -⟩ := Path.exists_stem hname
    rw [shownStem, hstem, Option.getD_some]
    exact Text.bytes_ne_nil (Bytes.text_ne_nil hnonempty)
  -- The stem, the dot and the extension are three bytes at least.
  have hlength : 3 ≤ (outputName input suffix extension).bytes.length := by
    have := List.length_pos_iff.mpr hstem
    have := List.length_pos_iff.mpr (Text.bytes_ne_nil hne)
    simp only [bytes_outputName, List.length_append, List.length_cons]
    omega
  refine ⟨?_, ?_, ?_, noSlash_outputName input hsuffix hextension⟩
  · exact fun heq => absurd (heq ▸ hlength) (by decide)
  · exact fun heq => absurd (heq ▸ hlength) (by decide)
  · exact fun heq => absurd (heq ▸ hlength) (by decide)

theorem NamesOutputs.isPlain (h : NamesOutputs suffix extension) (hinput : input.Named) :
    IsPlain (outputName input suffix extension).bytes :=
  isPlain_outputName hinput.isSome h.noSlash.1 h.noSlash.2 h.ne_nil

theorem noNul_outputName (h : NamesOutputs suffix extension) (hinput : input.Named) :
    Byte.nul ∉ (outputName input suffix extension).bytes := by
  obtain ⟨name, hfile, hname⟩ := hinput
  obtain ⟨stem, hstem, -, hsub⟩ := Path.exists_stem hfile
  have hnul : Byte.nul ∉ stem := fun hmem => (isName_iff.mp hname).2.1 (hsub _ hmem)
  have hshown : '\x00' ∉ shownStem input := by
    rw [shownStem, hstem, Option.getD_some, Bytes.mem_text_iff (by decide)]
    exact hnul
  rw [Text.mem_bytes_iff (by decide), outputName]
  simp [hshown, h.noNul.1, h.noNul.2]

theorem outputName_eq_iff :
    outputName input suffix extension = outputName other suffix extension ↔
      shownStem input = shownStem other := by
  simp [outputName]

private theorem getLast?_splitOn_outputName (input : Path) (suffix extension : Text) :
    ((outputName input suffix extension).splitOn '.').getLast? =
      (extension.splitOn '.').getLast? := by
  rw [outputName, List.splitOn_append_cons_self, List.getLast?_append,
    Option.or_of_isSome (by simp)]

theorem outputName_ne_of_isSource
    (hextension : (extension.splitOn '.').getLast? ≠ some Workspace.sourceExtension) {name : Bytes}
    (hname : (Path.splitName name).2 = some Workspace.sourceExtension.bytes) :
    (outputName input suffix extension).bytes ≠ name := by
  rintro rfl
  have hlast := Path.getLast?_splitOn_of_extension hname
  rw [Text.splitOn_bytes (by decide), List.getLast?_map, getLast?_splitOn_outputName] at hlast
  obtain ⟨last, hmem, hbytes⟩ := Option.map_eq_some_iff.mp hlast
  exact hextension (hmem.trans (congrArg some (Text.bytes_injective hbytes)))

end OutputName

namespace Path

section FileName

variable {p : Path} {front idle : List Bytes} {piece name : Bytes}

private theorem isAbsolute_iff (hp : p.bytes ≠ []) : p.isAbsolute ↔ p.pieces.head? = some [] := by
  obtain ⟨c, t, ht⟩ := List.exists_cons_of_ne_nil hp
  obtain ⟨first, more, hmore⟩ := List.exists_cons_of_ne_nil (List.splitOn_ne_nil Byte.slash t)
  by_cases hc : c = Byte.slash
  · simp [isAbsolute, pieces, ht, hc, List.splitOn_cons_eq_if_modifyHead]
  · simp [isAbsolute, pieces, ht, hc, List.splitOn_cons_eq_if_modifyHead, hmore]

private theorem head?_pieces_of_isAbsolute (h : p.isAbsolute) : p.pieces.head? = some [] := by
  refine (isAbsolute_iff ?_).mp h
  intro hnil
  simp [isAbsolute, hnil] at h

theorem isAbsolute_of_steps_nil (hp : p.bytes ≠ []) (h : p.steps = []) : p.isAbsolute := by
  obtain ⟨first, more, hmore⟩ := List.exists_cons_of_ne_nil (List.splitOn_ne_nil Byte.slash p.bytes)
  have hpieces : p.pieces = first :: more := hmore
  refine (isAbsolute_iff hp).mpr ?_
  by_contra hne
  have hfirst : first ≠ [] := by simpa [hpieces] using hne
  obtain ⟨c, hc⟩ := Component.exists_ofPiece? hfirst
  simp [steps, hpieces, hc] at h

private theorem exists_last_busy (pieces : List Bytes) :
    (∀ piece ∈ pieces, isIdle piece) ∨
      ∃ front piece idle, pieces = front ++ piece :: idle ∧ isIdle piece = false ∧
        ∀ other ∈ idle, isIdle other := by
  induction pieces using List.reverseRecOn with
  | nil => exact .inl nofun
  | append_singleton pieces last ih =>
    by_cases hlast : isIdle last
    · rcases ih with hidle | ⟨front, piece, idle, rfl, hbusy, hidle⟩
      · exact .inl (by simpa [or_imp, forall_and, hlast] using hidle)
      · refine .inr ⟨front, piece, idle ++ [last], by simp, hbusy, ?_⟩
        simpa [or_imp, forall_and, hlast] using hidle
    · exact .inr ⟨pieces, last, [], rfl, by simpa using hlast, nofun⟩

private theorem filter_busy_eq_nil (hidle : ∀ other ∈ idle, isIdle other) :
    idle.filter (!isIdle ·) = [] :=
  List.filter_eq_nil_iff.mpr fun other h => by simp [hidle other h]

theorem components_of_pieces (hp : p.pieces = piece :: idle) (hne : piece ≠ [])
    (hidle : ∀ other ∈ idle, isIdle other) :
    p.components = (Component.ofPiece? piece).toList := by
  have hrelative : ¬ p.isAbsolute := by
    intro h
    have hhead := head?_pieces_of_isAbsolute h
    exact hne (by simpa [hp] using hhead)
  simp [components, hrelative, hp, filter_busy_eq_nil hidle]

private theorem getLast?_components (hp : p.pieces = front ++ piece :: idle)
    (hbusy : isIdle piece = false)
    (hidle : ∀ other ∈ idle, isIdle other) :
    p.components.getLast? = Component.ofPiece? piece := by
  have hne : piece ≠ [] := by
    rintro rfl
    simp [isIdle] at hbusy
  obtain ⟨c, hc⟩ := Component.exists_ofPiece? hne
  cases front with
  | nil => simp [components_of_pieces hp hne hidle, hc]
  | cons first front => simp [components, hp, hbusy, hc, filter_busy_eq_nil hidle]

/-- The file name is the last piece that says something. -/
theorem fileName?_eq_some_iff :
    p.fileName? = some name ↔
      IsPlain name ∧ ∃ front idle, p.pieces = front ++ name :: idle ∧
        ∀ piece ∈ idle, isIdle piece := by
  constructor
  · intro h
    have hlast := getLast?_components_of_fileName? h
    obtain ⟨hname, hmem⟩ := isPlain_of_mem_components (List.mem_of_getLast? hlast)
    rcases exists_last_busy p.pieces with hidle | ⟨front, piece, idle, hp, hbusy, hidle⟩
    · exact absurd (hidle name hmem) (by simp [isIdle_of_isPlain hname])
    · rw [getLast?_components hp hbusy hidle] at hlast
      obtain ⟨rfl, -⟩ := Component.of_ofPiece?_eq_name hlast
      exact ⟨hname, front, idle, hp, hidle⟩
  · rintro ⟨hname, front, idle, hp, hidle⟩
    have hlast := getLast?_components hp (isIdle_of_isPlain hname) hidle
    rw [Component.ofPiece?_of_isPlain hname] at hlast
    simp only [fileName?, hlast]

end FileName

private theorem filterMap_busy (pieces : List Bytes) :
    (pieces.filter (!isIdle ·)).filterMap Component.ofPiece? =
      (pieces.filterMap Component.ofPiece?).filter (· != .here) := by
  induction pieces with
  | nil => rfl
  | cons piece pieces ih =>
    cases hidle : isIdle piece with
    | true =>
      obtain rfl | rfl : piece = [] ∨ piece = [Byte.dot] := by simpa [isIdle] using hidle
      · exact ih
      · exact ih
    | false =>
      obtain ⟨c, hc, hmoves⟩ := exists_step_of_busy hidle
      rw [List.filter_cons_of_pos (by simp [hidle]), List.filterMap_cons_some hc,
        List.filterMap_cons_some hc, List.filter_cons_of_pos (by simpa using hmoves), ih]

theorem components_eq_steps (p : Path) :
    p.components =
      if p.isAbsolute then .root :: p.steps.filter (· != .here)
      else p.steps.take 1 ++ (p.steps.drop 1).filter (· != .here) := by
  obtain ⟨first, more, hmore⟩ := List.exists_cons_of_ne_nil (List.splitOn_ne_nil Byte.slash p.bytes)
  have hp : p.pieces = first :: more := hmore
  rw [components, steps, hp, List.tail_cons, filterMap_busy]
  split
  · rename_i habsolute
    have hhead := head?_pieces_of_isAbsolute habsolute
    obtain rfl : first = [] := by simpa [hp] using hhead
    rfl
  · rename_i hrelative
    cases first with
    | nil =>
      -- of the relative paths only the empty one has an empty piece in front
      have hbytes : p.bytes = [] :=
        by_contra fun hne => hrelative ((isAbsolute_iff hne).mpr (by simp [hp]))
      obtain rfl : more = [] := by simpa [pieces, hbytes, List.splitOn_nil] using hp
      rfl
    | cons c first =>
      obtain ⟨step, hstep⟩ := Component.exists_ofPiece? (List.cons_ne_nil c first)
      simp [List.filterMap_cons_some hstep, hstep]

end Path
end ClassTypings
