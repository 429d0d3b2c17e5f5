import ClassTypings.Program
import ClassTypings.Proofs.ClassHeader
import ClassTypings.Proofs.PlainPatterns
/-!
# What a log filter shows

The rule that decides about a topic, what the text of a filter adds to the rules, and what that
means for the log of a run.
-/
namespace ClassTypings

/-- A rule that is heavier than those after it and no lighter than those before it. -/
def LogRule.Leads (rule : LogRule) (rules : List LogRule) : Prop :=
  ∃ before after, rules = before ++ rule :: after ∧
    (∀ r ∈ before, r.weight ≤ rule.weight) ∧ ∀ r ∈ after, r.weight < rule.weight

/-- How a rule is written: a verbosity, before which a topic and an equals sign can stand. -/
inductive LogRule.Written : LogRule → Text → Prop
  | all {word : Text} {v : Verbosity} (hword : Verbosity.ofName? word = some v) :
    Written { verbosity := v } word
  | topic {topic word : Text} {v : Verbosity} (hplain : ∀ mark ∈ ",=/".toList, mark ∉ topic)
    (hstart : ∀ c ∈ topic.head?, ¬isBlank c) (hword : Verbosity.ofName? word = some v) :
    Written ⟨some topic, v⟩ (topic ++ '=' :: word)

/-- The heaviest rule about a topic among some rules, which are one for each topic. -/
structure LogRule.Decides (rule : LogRule) (rules : List LogRule) (topic : Topic) : Prop where
  distinct : (rules.map (·.topic)).Nodup
  mem : rule ∈ rules
  covers : rule.covers topic
  named : rule.topic ≠ some []
  heaviest : ∀ r ∈ rules, r.covers topic → r ≠ rule → r.weight < rule.weight

namespace LogRule

variable {rule r : LogRule} {rules : List LogRule}

theorem covers_iff {topic : Topic} :
    rule.covers topic ↔ ∀ front, rule.topic = some front → front <+: topic.name := by
  cases hfront : rule.topic with
  | none => simp [covers, hfront]
  | some front =>
    simp only [covers, hfront, Option.all_some, Option.some.injEq, forall_eq']
    constructor
    · intro hsome
      obtain ⟨rest, hrest⟩ := Option.isSome_iff_exists.mp hsome
      exact ⟨rest, (Text.after?_eq_some_iff.mp hrest).symm⟩
    · rintro ⟨rest, hrest⟩
      rw [Text.after?_eq_some_iff.mpr hrest.symm]
      rfl

private theorem Leads.mem (h : rule.Leads rules) : rule ∈ rules := by
  obtain ⟨before, after, rfl, -⟩ := h
  simp

private theorem leads_snoc_of_lt (h : rule.Leads rules) (hr : r.weight < rule.weight) :
    rule.Leads (rules ++ [r]) := by
  obtain ⟨before, after, rfl, hbefore, hafter⟩ := h
  refine ⟨before, after ++ [r], by simp, hbefore, ?_⟩
  intro q hq
  rcases List.mem_append.mp hq with hq | hq
  · exact hafter q hq
  · rwa [List.mem_singleton.mp hq]

private theorem Leads.weight_le (h : rule.Leads rules) (hr : r ∈ rules) :
    r.weight ≤ rule.weight := by
  obtain ⟨before, after, rfl, hbefore, hafter⟩ := h
  rcases List.mem_append.mp hr with hr | hr
  · exact hbefore r hr
  · rcases List.mem_cons.mp hr with rfl | hr
    · exact le_rfl
    · exact (hafter r hr).le

private theorem Leads.unique (h : rule.Leads rules) (h' : r.Leads rules) : rule = r := by
  obtain ⟨before, after, rfl, hbefore, hafter⟩ := h
  obtain ⟨before', after', hsame, hbefore', hafter'⟩ := h'
  rcases List.append_eq_append_iff.mp hsame with ⟨mid, hmid, hrest⟩ | ⟨mid, hmid, hrest⟩
  · cases mid with
    | nil => exact (List.cons.inj hrest).1
    | cons q mid =>
      obtain ⟨rfl, rfl⟩ := List.cons.inj hrest
      have hheavier := hbefore' rule (by simp [hmid])
      have hlighter := hafter r (by simp)
      omega
  · cases mid with
    | nil => exact (List.cons.inj hrest).1.symm
    | cons q mid =>
      obtain ⟨rfl, rfl⟩ := List.cons.inj hrest
      have hheavier := hbefore r (by simp [hmid])
      have hlighter := hafter' rule (by simp)
      omega

end LogRule

namespace LogFilter

variable {f : LogFilter} {rule : LogRule} {entry : LogEntry}

private theorem foldl_leads (rules : List LogRule) :
    match rules.foldl
      (fun best rule => if best.any (rule.weight < ·.weight) then best else some rule) none with
    | some rule => rule.Leads rules
    | none => rules = [] := by
  induction rules using List.reverseRecOn with
  | nil => rfl
  | append_singleton rules r ih =>
    rw [List.foldl_append, List.foldl_cons, List.foldl_nil]
    split at ih
    · next best hbest =>
      simp only [hbest, Option.any_some]
      by_cases hr : r.weight < best.weight
      · simpa [hr] using LogRule.leads_snoc_of_lt ih hr
      · simp only [hr, decide_false, Bool.false_eq_true, if_false]
        refine ⟨rules, [], rfl, ?_, nofun⟩
        intro q hq
        have hq := ih.weight_le hq
        omega
    · next hbest =>
      simp only [ih]
      exact ⟨[], [], rfl, nofun, nofun⟩

/-- The rule that decides is the heaviest about the topic, and of several the last. -/
theorem rule?_eq_some_iff {topic : Topic} :
    f.rule? topic = some rule ↔ rule.Leads (f.rules.filter (·.covers topic)) := by
  have hleads := foldl_leads (f.rules.filter (·.covers topic))
  rw [← rule?] at hleads
  constructor
  · intro hrule
    rwa [hrule] at hleads
  · intro h
    cases hrule : f.rule? topic with
    | some best =>
      rw [hrule] at hleads
      rw [h.unique hleads]
    | none =>
      rw [hrule] at hleads
      exact absurd h.mem (by simp [hleads])

theorem rule?_eq_none_iff {topic : Topic} :
    f.rule? topic = none ↔ ∀ rule ∈ f.rules, ¬rule.covers topic := by
  have hleads := foldl_leads (f.rules.filter (·.covers topic))
  rw [← rule?] at hleads
  rw [← List.filter_eq_nil_iff]
  constructor
  · intro hnone
    rwa [hnone] at hleads
  · intro hnil
    cases hrule : f.rule? topic with
    | none => rfl
    | some best =>
      rw [hrule, hnil] at hleads
      exact absurd hleads.mem List.not_mem_nil

theorem shows_iff :
    f.shows entry ↔
      (∃ rule : LogRule, rule.Leads (f.rules.filter (·.covers entry.topic)) ∧
        rule.verbosity.admits entry.level) ∧
      ∀ p, f.pattern = some p → p.occursIn entry.message := by
  simp only [shows, Bool.and_eq_true, Option.any_eq_true, rule?_eq_some_iff, Option.all_eq_true]

/-! ## The rules of a filter -/

private theorem mem_addRule {r : LogRule} :
    r ∈ (f.addRule rule).rules ↔ r = rule ∨ r ∈ f.rules ∧ r.topic ≠ rule.topic := by
  unfold addRule
  split
  · next hany =>
    obtain ⟨earlier, hearlier, htopic⟩ := List.any_eq_true.mp hany
    rw [decide_eq_true_eq] at htopic
    simp only [List.mem_map]
    constructor
    · rintro ⟨q, hq, rfl⟩
      by_cases hsame : q.topic = rule.topic
      · exact .inl (if_pos hsame)
      · rw [if_neg hsame]
        exact .inr ⟨hq, hsame⟩
    · rintro (rfl | ⟨hr, hother⟩)
      · exact ⟨earlier, hearlier, if_pos htopic⟩
      · exact ⟨r, hr, if_neg hother⟩
  · next hnone =>
    have hothers : ∀ q ∈ f.rules, q.topic ≠ rule.topic := by simpa using hnone
    rw [List.mem_append, List.mem_singleton]
    constructor
    · rintro (hr | rfl)
      · exact .inr ⟨hr, hothers r hr⟩
      · exact .inl rfl
    · rintro (rfl | ⟨hr, -⟩)
      · exact .inr rfl
      · exact .inl hr

/-- A filter with one rule for each topic, and one for all topics. -/
structure IsOrderly (f : LogFilter) : Prop where
  distinct : (f.rules.map (·.topic)).Nodup
  default : none ∈ f.rules.map (·.topic)

private theorem topics_addRule :
    (f.addRule rule).rules.map (·.topic) =
      if rule.topic ∈ f.rules.map (·.topic) then f.rules.map (·.topic)
      else f.rules.map (·.topic) ++ [rule.topic] := by
  have hany : f.rules.any (·.topic = rule.topic) ↔ rule.topic ∈ f.rules.map (·.topic) := by simp
  unfold LogFilter.addRule
  simp only [hany]
  split_ifs with hmem
  · rw [List.map_map]
    apply List.map_congr_left
    intro earlier _
    show (if earlier.topic = rule.topic then rule else earlier).topic = earlier.topic
    split_ifs with hsame
    · exact hsame.symm
    · rfl
  · exact List.map_append

private theorem IsOrderly.addRule (h : f.IsOrderly) (rule : LogRule) :
    (f.addRule rule).IsOrderly := by
  have htopics : (f.addRule rule).rules.map (·.topic) = _ := topics_addRule
  split at htopics
  · exact ⟨htopics ▸ h.distinct, htopics ▸ h.default⟩
  · next hnew =>
    refine ⟨?_, ?_⟩
    · rw [htopics]
      rw [List.nodup_append]
      refine ⟨h.distinct, List.pairwise_singleton .., ?_⟩
      rintro topic htopic _ hsame rfl
      exact hnew (List.mem_singleton.mp hsame ▸ htopic)
    · rw [htopics]
      exact List.mem_append_left _ h.default

private theorem IsOrderly.readRule (h : f.IsOrderly) (source : Text) :
    (f.readRule source).IsOrderly := by
  unfold LogFilter.readRule
  dsimp only
  split_ifs
  · exact h
  · split
    · split <;> exact h.addRule _
    · split_ifs
      · exact h.addRule _
      · split
        · exact h.addRule _
        · exact ⟨h.distinct, h.default⟩
    · exact ⟨h.distinct, h.default⟩

private theorem IsOrderly.readRules (h : f.IsOrderly) (sources : List Text) :
    (sources.foldl LogFilter.readRule f).IsOrderly := by
  induction sources generalizing f with
  | nil => exact h
  | cons source sources ih => exact ih (h.readRule source)

private theorem IsOrderly.readPattern (h : f.IsOrderly) (source : Text) :
    (f.readPattern source).IsOrderly := by
  unfold LogFilter.readPattern
  split <;> exact ⟨h.distinct, h.default⟩

theorem IsOrderly.read (h : f.IsOrderly) (source : Text) : (f.read source).IsOrderly := by
  unfold LogFilter.read
  split
  · exact h.readRules _
  · exact (h.readRules _).readPattern _
  · exact ⟨h.distinct, h.default⟩

/-! ## Written rules -/

private theorem trim_eq_self {t : Text} (hstart : ∀ c ∈ t.head?, ¬isBlank c)
    (hend : ∀ c ∈ t.getLast?, ¬isBlank c) : Text.trim isBlank t = t := by
  have hdrop : ∀ u : Text, (∀ c ∈ u.head?, ¬isBlank c) → u.dropWhile isBlank = u := by
    intro u hu
    cases u with
    | nil => rfl
    | cons c u => exact List.dropWhile_cons_of_neg (hu c rfl)
  rw [Text.trim, hdrop t hstart, hdrop t.reverse, List.reverse_reverse]
  rwa [List.head?_reverse]

private theorem toLower_mem {word : Text} {v : Verbosity} (hword : Verbosity.ofName? word = some v)
    {c : Char} (hc : c ∈ word) : c.toLower ∈ "offerrorwarninfodebugtrace".toList := by
  have hlower : c.toLower ∈ Text.asciiLower word := List.mem_map_of_mem hc
  unfold Verbosity.ofName? at hword
  dsimp only at hword
  split_ifs at hword with hoff
  · have hletters : "off".toList ⊆ "offerrorwarninfodebugtrace".toList := by decide
    exact hletters (hoff ▸ hlower)
  · obtain ⟨level, hfound, -⟩ := Option.map_eq_some_iff.mp hword
    have hname : Text.asciiLower level.name = Text.asciiLower word := by
      simpa using List.find?_some hfound
    have hletters : Text.asciiLower level.name ⊆ "offerrorwarninfodebugtrace".toList := by
      cases level <;> decide
    exact hletters (hname ▸ hlower)

private theorem toNat_of_ofName? {word : Text} {v : Verbosity}
    (hword : Verbosity.ofName? word = some v) {c : Char} (hc : c ∈ word) :
    65 ≤ c.toNat ∧ c.toNat ≤ 122 := by
  have hsmall : ∀ d ∈ "offerrorwarninfodebugtrace".toList, 97 ≤ d.toNat ∧ d.toNat ≤ 122 := by
    simp
  have hlower := hsmall _ (toLower_mem hword hc)
  unfold Char.toLower at hlower
  split_ifs at hlower with hcapital
  · have hleast : 65 ≤ c.toNat := UInt32.le_iff_toNat_le.mp hcapital.1
    have hgreatest : c.toNat ≤ 90 := UInt32.le_iff_toNat_le.mp hcapital.2
    omega
  · omega

private theorem noMark_of_ofName? {word : Text} {v : Verbosity}
    (hword : Verbosity.ofName? word = some v) : ∀ mark ∈ ",=/".toList, mark ∉ word := by
  intro mark hmark hmem
  have hletter := toNat_of_ofName? hword hmem
  have hlow : ∀ d ∈ ",=/".toList, d.toNat < 65 := by simp
  have := hlow mark hmark
  omega

private theorem noBlank_of_ofName? {word : Text} {v : Verbosity}
    (hword : Verbosity.ofName? word = some v) {c : Char} (hc : c ∈ word) : ¬isBlank c := by
  intro hblank
  have hletter := toNat_of_ofName? hword hc
  have := ClassHeader.toNat_of_isBlank hblank
  omega

private theorem ne_nil_of_ofName? {word : Text} {v : Verbosity}
    (hword : Verbosity.ofName? word = some v) : word ≠ [] := by
  rintro rfl
  have hnone : Verbosity.ofName? [] = none := by decide
  rw [hnone] at hword
  exact absurd hword nofun

private theorem trim_word {word : Text} {v : Verbosity} (hword : Verbosity.ofName? word = some v) :
    Text.trim isBlank word = word :=
  trim_eq_self (fun _ hc => noBlank_of_ofName? hword (List.mem_of_head? hc))
    (fun _ hc => noBlank_of_ofName? hword (List.mem_of_getLast? hc))

theorem readRule_of_written {source : Text} (h : rule.Written source) :
    f.readRule source = f.addRule rule := by
  cases h with
  | all hword =>
    have hequals : '=' ∉ source := noMark_of_ofName? hword '=' (by decide)
    unfold readRule
    simp only [trim_word hword, List.splitOn_eq_singleton hequals, hword]
    rw [if_neg (by simpa using ne_nil_of_ofName? hword)]
  | @topic topic word v hplain hstart hword =>
    have htrim : Text.trim isBlank (topic ++ '=' :: word) = topic ++ '=' :: word := by
      apply trim_eq_self
      · cases topic with
        | nil =>
          rintro _ ⟨⟩
          decide
        | cons c topic => exact hstart
      · intro c hc
        rw [List.getLast?_append_of_ne_nil _ (by simp),
          List.getLast?_cons_of_ne_nil (ne_nil_of_ofName? hword)] at hc
        exact noBlank_of_ofName? hword (List.mem_of_getLast? hc)
    unfold readRule
    simp only [htrim, List.splitOn_append_cons_self_of_not_mem (hplain '=' (by decide)),
      List.splitOn_eq_singleton (noMark_of_ofName? hword '=' (by decide)), trim_word hword, hword]
    rw [if_neg (by simp), if_neg (by simpa using ne_nil_of_ofName? hword)]

private theorem noMark_of_written {source : Text} (h : rule.Written source) :
    ',' ∉ source ∧ '/' ∉ source := by
  cases h with
  | all hword =>
    exact ⟨noMark_of_ofName? hword ',' (by decide), noMark_of_ofName? hword '/' (by decide)⟩
  | topic hplain _ hword =>
    have hcomma := noMark_of_ofName? hword ',' (by decide)
    have hslash := noMark_of_ofName? hword '/' (by decide)
    simp [hcomma, hslash, hplain ',' (by decide), hplain '/' (by decide)]

private theorem not_mem_intercalate {c : Char} (hc : c ≠ ',') {sources : List Text}
    (h : ∀ source ∈ sources, c ∉ source) : c ∉ [','].intercalate sources := by
  induction sources with
  | nil => exact List.not_mem_nil
  | cons source sources ih =>
    rw [List.forall_mem_cons] at h
    cases sources with
    | nil => simpa using h.1
    | cons next sources =>
      rw [List.intercalate_cons_cons, List.append_assoc, List.mem_append, List.mem_append,
        List.mem_singleton]
      rintro (hmem | hcomma | hmem)
      · exact h.1 hmem
      · exact hc hcomma
      · exact ih h.2 hmem

private theorem noMarks_of_written {rules : List LogRule} {sources : List Text}
    (h : List.Forall₂ LogRule.Written rules sources) :
    ∀ source ∈ sources, ',' ∉ source ∧ '/' ∉ source := by
  induction h with
  | nil => exact nofun
  | cons hrule _ ih => exact List.forall_mem_cons.mpr ⟨noMark_of_written hrule, ih⟩

private theorem readRules_of_written {rules : List LogRule} {sources : List Text}
    (h : List.Forall₂ LogRule.Written rules sources) :
    (([','].intercalate sources).splitOn ',').foldl readRule f = rules.foldl addRule f := by
  by_cases hne : sources = []
  · subst hne
    cases h
    rfl
  · rw [List.splitOn_intercalate ',' (fun source hsource => (noMarks_of_written h source hsource).1)
      hne]
    clear hne
    induction h generalizing f with
    | nil => rfl
    | cons hrule _ ih => rw [List.foldl_cons, List.foldl_cons, readRule_of_written hrule, ih]

private theorem noSlash_of_written {rules : List LogRule} {sources : List Text}
    (h : List.Forall₂ LogRule.Written rules sources) : '/' ∉ [','].intercalate sources :=
  not_mem_intercalate (by decide) fun source hsource => (noMarks_of_written h source hsource).2

/-- Written rules with commas between them are read one after another. -/
theorem read_of_written {rules : List LogRule} {sources : List Text}
    (h : List.Forall₂ LogRule.Written rules sources) :
    f.read ([','].intercalate sources) = rules.foldl addRule f := by
  unfold read
  rw [List.splitOn_eq_singleton (noSlash_of_written h)]
  exact readRules_of_written h

theorem read_of_written_pattern {rules : List LogRule} {sources : List Text} {pattern : Text}
    (h : List.Forall₂ LogRule.Written rules sources) (hpattern : '/' ∉ pattern) :
    f.read ([','].intercalate sources ++ '/' :: pattern) =
      (rules.foldl addRule f).readPattern pattern := by
  unfold read
  rw [List.splitOn_append_cons_self_of_not_mem (noSlash_of_written h),
    List.splitOn_eq_singleton hpattern]
  exact congrArg (readPattern · pattern) (readRules_of_written h)

/-- With more than one slash the text adds nothing but a flaw. -/
theorem read_of_slashes {first second rest : Text} (hfirst : '/' ∉ first) (hsecond : '/' ∉ second) :
    f.read (first ++ '/' :: (second ++ '/' :: rest)) =
      f.addFlaw (.slashes (first ++ '/' :: (second ++ '/' :: rest))) := by
  obtain ⟨third, more, hmore⟩ := List.exists_cons_of_ne_nil (List.splitOn_ne_nil '/' rest)
  unfold read
  rw [List.splitOn_append_cons_self_of_not_mem hfirst,
    List.splitOn_append_cons_self_of_not_mem hsecond, hmore]

/-! ## The rule that decides -/

private theorem mem_foldl_addRule {rules : List LogRule} (hdistinct : (rules.map (·.topic)).Nodup)
    {r : LogRule} : r ∈ (rules.foldl addRule f).rules ↔
      r ∈ rules ∨ r ∈ f.rules ∧ r.topic ∉ rules.map (·.topic) := by
  induction rules generalizing f with
  | nil => simp
  | cons rule rules ih =>
    rw [List.map_cons, List.nodup_cons] at hdistinct
    rw [List.foldl_cons, ih hdistinct.2, mem_addRule, List.mem_cons, List.map_cons, List.mem_cons,
      not_or]
    constructor
    · rintro (hr | ⟨rfl | ⟨hr, hother⟩, hlater⟩)
      · exact .inl (.inr hr)
      · exact .inl (.inl rfl)
      · exact .inr ⟨hr, hother, hlater⟩
    · rintro ((rfl | hr) | ⟨hr, hother, hlater⟩)
      · exact .inr ⟨.inl rfl, hdistinct.1⟩
      · exact .inl hr
      · exact .inr ⟨.inr ⟨hr, hother⟩, hlater⟩

theorem rule?_of_heaviest {topic : Topic} (hmem : rule ∈ f.rules) (hcovers : rule.covers topic)
    (h : ∀ r ∈ f.rules, r.covers topic → r ≠ rule → r.weight < rule.weight) :
    f.rule? topic = some rule := by
  cases hrule : f.rule? topic with
  | none => exact absurd hcovers (rule?_eq_none_iff.mp hrule rule hmem)
  | some best =>
    have hleads := rule?_eq_some_iff.mp hrule
    obtain ⟨hbest, hbestCovers⟩ := List.mem_filter.mp hleads.mem
    have hle := hleads.weight_le (List.mem_filter.mpr ⟨hmem, hcovers⟩)
    by_contra hother
    have := h best hbest hbestCovers (by simpa using hother)
    omega

private theorem rule?_foldl_addRule {rules : List LogRule} {topic : Topic} {verbosity : Verbosity}
    (hrules : f.rules = [{ verbosity }]) (h : rule.Decides rules topic) :
    (rules.foldl addRule f).rule? topic = some rule := by
  apply rule?_of_heaviest ((mem_foldl_addRule h.distinct).mpr (.inl h.mem)) h.covers
  intro r hr hcovers hother
  rcases (mem_foldl_addRule h.distinct).mp hr with hr | ⟨hr, hnew⟩
  · exact h.heaviest r hr hcovers hother
  · -- The rule that was there is about all topics, so `rule` is not.
    rw [hrules, List.mem_singleton] at hr
    subst hr
    show 0 < (rule.topic.map List.length).getD 0
    cases hfront : rule.topic with
    | none => exact absurd (List.mem_map.mpr ⟨rule, h.mem, hfront⟩) hnew
    | some front =>
      apply List.length_pos_iff.mpr
      rintro rfl
      exact h.named hfront

private theorem pattern_foldl_addRule (rules : List LogRule) :
    (rules.foldl addRule f).pattern = f.pattern := by
  induction rules generalizing f with
  | nil => rfl
  | cons rule rules ih =>
    rw [List.foldl_cons, ih]
    rfl

/-- A weightier entry is shown if a lighter one with the same message is. -/
theorem shows_mono {entry' : LogEntry} (h : f.shows entry)
    (hlevel : entry'.level.detail ≤ entry.level.detail) (htopic : entry'.topic = entry.topic)
    (hmessage : entry'.message = entry.message) : f.shows entry' := by
  obtain ⟨⟨rule, hleads, hadmits⟩, hpattern⟩ := shows_iff.mp h
  refine shows_iff.mpr ⟨⟨rule, ?_, ?_⟩, ?_⟩
  · rwa [htopic]
  · obtain ⟨most, hmost, hdetail⟩ := Option.any_eq_true _ _ |>.mp hadmits
    rw [decide_eq_true_eq] at hdetail
    apply Option.any_eq_true _ _ |>.mpr
    exact ⟨most, hmost, by simpa using hlevel.trans hdetail⟩
  · rwa [hmessage]

private theorem shows_of_rule? (hrule : f.rule? entry.topic = some rule) :
    f.shows entry ↔
      rule.verbosity.admits entry.level ∧ ∀ p, f.pattern = some p → p.occursIn entry.message := by
  simp only [shows, hrule, Option.any_some, Bool.and_eq_true, Option.all_eq_true]

private theorem shows_readPattern {source : Text} {p : Pattern} (hp : Pattern.ofText source = .ok p)
    (hrule : f.rule? entry.topic = some rule) :
    (f.readPattern source).shows entry ↔
      rule.verbosity.admits entry.level ∧ p.occursIn entry.message := by
  have hread : f.readPattern source = { f with pattern := some p } := by rw [readPattern, hp]
  have hsame : (f.readPattern source).rule? entry.topic = some rule := by
    rw [hread]
    exact hrule
  rw [shows_of_rule? hsame, hread]
  simp

end LogFilter

/-! ## The log of a run -/

namespace Program

variable {env : Environment} {verbose : Bool} {entry : LogEntry} {rule : LogRule}

theorem logFilter_isOrderly : (logFilter env verbose).IsOrderly := by
  have husual (verbosity : Verbosity) : LogFilter.IsOrderly { rules := [{ verbosity }] } :=
    ⟨List.pairwise_singleton .., List.mem_singleton.mpr rfl⟩
  unfold logFilter
  dsimp only
  split
  · exact (husual _).read _
  · exact husual _

/-- Whatever the variable says, some rule decides about each topic. -/
theorem rule?_logFilter_ne_none (topic : Topic) : (logFilter env verbose).rule? topic ≠ none := by
  intro hnone
  have horderly : (logFilter env verbose).IsOrderly := logFilter_isOrderly
  obtain ⟨rule, hrule, htopic⟩ := List.mem_map.mp horderly.default
  apply LogFilter.rule?_eq_none_iff.mp hnone rule hrule
  simp [LogRule.covers, htopic]

theorem shows_of_unset (henv : env filterVariable = none) :
    (logFilter env verbose).shows entry ↔
      entry.level.detail ≤ (if verbose then Level.debug else Level.info).detail := by
  have hfilter : logFilter env verbose =
      { rules := [{ verbosity := some (if verbose then .debug else .info) }] } := by
    rw [logFilter, henv]
  rw [hfilter]
  simp [LogFilter.shows, LogFilter.rule?, LogRule.covers, Verbosity.admits]

/-- The rules of the variable decide, not the option. -/
theorem shows_of_written {rules : List LogRule} {sources : List Text}
    (henv : env filterVariable = some ([','].intercalate sources))
    (hwritten : List.Forall₂ LogRule.Written rules sources) (h : rule.Decides rules entry.topic) :
    (logFilter env verbose).shows entry ↔ rule.verbosity.admits entry.level := by
  rw [logFilter, henv]
  show (LogFilter.read _ _).shows entry ↔ _
  rw [LogFilter.read_of_written hwritten,
    LogFilter.shows_of_rule? (LogFilter.rule?_foldl_addRule rfl h),
    LogFilter.pattern_foldl_addRule]
  simp

/-- A plain text after a slash leaves the entries that have it in their message. -/
theorem shows_of_written_plain {rules : List LogRule} {sources : List Text} {t : Text}
    (henv : env filterVariable = some ([','].intercalate sources ++ '/' :: t))
    (hwritten : List.Forall₂ LogRule.Written rules sources) (h : rule.Decides rules entry.topic)
    (ht : ∀ c ∈ t, IsOrdinary c) (hslash : '/' ∉ t) (hsize : Text.utf8Size t ≤ 327673) :
    (logFilter env verbose).shows entry ↔
      rule.verbosity.admits entry.level ∧ t <:+: entry.message := by
  obtain ⟨p, hp, hoccurs⟩ := Pattern.occursIn_ordinary_iff ht hsize
  rw [logFilter, henv]
  show (LogFilter.read _ _).shows entry ↔ _
  rw [LogFilter.read_of_written_pattern hwritten hslash,
    LogFilter.shows_readPattern hp (LogFilter.rule?_foldl_addRule rfl h), hoccurs]

/-- The longer topic wins, and the message has to contain the plain text. -/
example :
    let filter := (LogFilter.mk [{ verbosity := some .info }] none []).read
      "Warn,php2ts::transpiler=trace/User".toList
    filter.shows ⟨.trace, .outline, "class User found".toList⟩ ∧
      ¬filter.shows ⟨.trace, .outline, "class Order found".toList⟩ ∧
      ¬filter.shows ⟨.info, .command, "User".toList⟩ := by
  decide +kernel

/-- Where the variable is a word for a verbosity the log of a run goes as far as it says. -/
theorem log_run_of_word {word : Text} {v : Verbosity} (henv : env filterVariable = some word)
    (hword : Verbosity.ofName? word = some v) (args : List Bytes) (w : Workspace) :
    ∀ entry ∈ (run args env w).log, v.admits entry.level := by
  intro entry hentry
  have hshown : ∃ verbose, (logFilter env verbose).shows entry := by
    unfold run at hentry
    split at hentry
    · next refusal _ => cases refusal <;> exact absurd hentry List.not_mem_nil
    · next invocation _ => exact ⟨invocation.verbose, (List.mem_filter.mp hentry).2⟩
  obtain ⟨verbose, hshows⟩ := hshown
  have hwritten : List.Forall₂ LogRule.Written [{ verbosity := v }] [word] :=
    .cons (.all hword) .nil
  have hdecides : LogRule.Decides { verbosity := v } [{ verbosity := v }] entry.topic :=
    ⟨List.pairwise_singleton .., List.mem_singleton.mpr rfl, rfl, nofun, by simp⟩
  exact (shows_of_written (by simpa using henv) hwritten hdecides).mp hshows

end Program
end ClassTypings
