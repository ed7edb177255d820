/-
  SoundLaw.Proofs.RuleSet.Switches

  Rules that are switched on and off. The names of a set differ, so that a toggle changes one entry
  and leaves the others alone (`toggleEach_eq`), and what holds of a sequence of toggles is what
  holds of each entry by itself: only the toggles of its name matter, and of these the last one that
  says on or off, with those after it that switch over.

  An entry keeps what it was switched to only where this is not its default (`Entry.IsCanonical`).
  Hence its state says all about it, and two switches that come to the same state leave the same
  entry.
-/
import SoundLaw.CommandLine.Run
import SoundLaw.Proofs.RuleSet.Records

namespace SoundLaw.RuleSet

/-! ## One entry -/

namespace Entry

variable {e : Entry}

@[simp] theorem rule_switch (e : Entry) (on : Bool) : (e.switch on).rule = e.rule := rfl

@[simp] theorem isOn_switch (e : Entry) (on : Bool) : (e.switch on).isOn = on := by
  rw [isOn, switch]
  by_cases default : on = e.rule.isOnByDefault
  · simp [default]
  · simp [default]

@[simp] theorem switch_switch (e : Entry) (a b : Bool) : (e.switch a).switch b = e.switch b := rfl

/-- An entry that keeps nothing but a state that is not its default. -/
def IsCanonical (e : Entry) : Prop := e.switch e.isOn = e

theorem isCanonical_switch (e : Entry) (on : Bool) : (e.switch on).IsCanonical := by
  rw [IsCanonical, isOn_switch, switch_switch]

theorem isCanonical_of_new (r : Rule) : IsCanonical { rule := r } := by
  simp [IsCanonical, switch, isOn]

/-- A canonical entry has been switched exactly if it is not in its default state, and to the state
    that it is in. -/
theorem IsCanonical.switched_eq_some_iff (canonical : e.IsCanonical) {on : Bool} :
    e.switched = some on ↔ e.isOn = on ∧ on ≠ e.rule.isOnByDefault := by
  have switched : e.switched = if e.isOn = e.rule.isOnByDefault then none else some e.isOn := by
    conv_lhs => rw [← show e.switch e.isOn = e from canonical]
    rfl
  rw [switched]
  split
  · next default =>
    simp only [reduceCtorEq, false_iff]
    rintro ⟨rfl, other⟩
    exact other default
  · next other =>
    rw [Option.some_inj]
    exact ⟨fun same => ⟨same, same ▸ other⟩, And.left⟩

/-- An entry after a toggle of some name. -/
def toggle (e : Entry) (name : Text) (on : Option Bool) : Entry :=
  if e.rule.name = name then e.switch (on.getD (!e.isOn)) else e

@[simp] theorem rule_toggle (e : Entry) (name : Text) (on : Option Bool) :
    (e.toggle name on).rule = e.rule := by
  rw [toggle]
  split <;> rfl

theorem isOn_toggle (e : Entry) (name : Text) (on : Option Bool) :
    (e.toggle name on).isOn = if e.rule.name = name then on.getD (!e.isOn) else e.isOn := by
  rw [toggle]
  split
  · rw [isOn_switch]
  · rfl

theorem IsCanonical.toggle (canonical : e.IsCanonical) (name : Text) (on : Option Bool) :
    (e.toggle name on).IsCanonical := by
  rw [Entry.toggle]
  split
  · exact isCanonical_switch e _
  · exact canonical

/-- Toggles of different names commute. -/
theorem toggle_comm (e : Entry) {n m : Text} (apart : n ≠ m) (a b : Option Bool) :
    (e.toggle n a).toggle m b = (e.toggle m b).toggle n a := by
  by_cases first : e.rule.name = n
  · simp [toggle, first, apart]
  · by_cases second : e.rule.name = m
    · simp [toggle, second, apart.symm]
    · simp [toggle, first, second]

/-- An entry that is switched over twice is as it was. -/
theorem IsCanonical.toggle_toggle (canonical : e.IsCanonical) (name : Text) :
    (e.toggle name none).toggle name none = e := by
  by_cases own : e.rule.name = name
  · simp only [Entry.toggle, own, if_true, rule_switch, isOn_switch, switch_switch,
      Option.getD_none, Bool.not_not]
    exact canonical
  · simp [Entry.toggle, own]

/-- An entry after some toggles. -/
def toggleEach (e : Entry) (toggles : List (Text × Option Bool)) : Entry :=
  toggles.foldl (fun e (name, on) => e.toggle name on) e

end Entry

/-- What becomes of the state of a rule through some toggles: those of its name set it or switch it
    over, in order. -/
def switchedBy (name : Text) (toggles : List (Text × Option Bool)) (on : Bool) : Bool :=
  toggles.foldl (fun on toggle => if name = toggle.1 then toggle.2.getD (!on) else on) on

namespace Entry

@[simp] theorem rule_toggleEach (e : Entry) (toggles : List (Text × Option Bool)) :
    (e.toggleEach toggles).rule = e.rule := by
  induction toggles generalizing e with
  | nil => rfl
  | cons toggle toggles ih => exact (ih _).trans (rule_toggle e _ _)

theorem isOn_toggleEach (e : Entry) (toggles : List (Text × Option Bool)) :
    (e.toggleEach toggles).isOn = switchedBy e.rule.name toggles e.isOn := by
  induction toggles generalizing e with
  | nil => rfl
  | cons toggle toggles ih =>
    have later := ih (e.toggle toggle.1 toggle.2)
    rw [rule_toggle, isOn_toggle] at later
    exact later

theorem IsCanonical.toggleEach {e : Entry} (canonical : e.IsCanonical)
    (toggles : List (Text × Option Bool)) : (e.toggleEach toggles).IsCanonical := by
  induction toggles generalizing e with
  | nil => exact canonical
  | cons toggle toggles ih => exact ih (canonical.toggle toggle.1 toggle.2)

end Entry

/-! ## All entries -/

section

variable {s : RuleSet} (names : (s.rules.map Rule.name).Nodup)

include names

theorem eq_of_name_eq {d e : Entry} (hd : d ∈ s.entries) (he : e ∈ s.entries)
    (same : d.rule.name = e.rule.name) : d = e := by
  have names : (s.entries.map fun e => e.rule.name).Nodup := by
    rwa [rules, List.map_map] at names
  exact List.inj_on_of_nodup_map names hd he same

/-- Each entry is found by its name. -/
theorem find_of_mem {e : Entry} (he : e ∈ s.entries) : s.find e.rule.name = .ok e := by
  rw [find]
  split
  · next d found =>
    have same : d.rule.name = e.rule.name := by simpa using List.find?_some found
    exact congrArg Except.ok (eq_of_name_eq names (List.mem_of_find?_eq_some found) he same)
  · next missing => exact absurd (List.find?_eq_none.1 missing e he) (by simp)

/-- The state of a rule of a set is that of its entry. -/
theorem isOn?_of_mem {e : Entry} (he : e ∈ s.entries) : s.isOn? e.rule.name = some e.isOn := by
  rw [isOn?, find_of_mem names he]
  rfl

/-- The rules that are off are those of which the state says so. -/
theorem skipped_eq : s.skipped = s.rules.filter fun r => s.isOn? r.name = some false := by
  rw [skipped, rules, List.filter_map]
  refine congrArg (List.map Entry.rule) (List.filter_congr fun e he => ?_)
  have state := isOn?_of_mem names he
  cases on : e.isOn <;> simp [state, on]

theorem toggle_eq {name : Text} (known : name ∈ s.rules.map Rule.name) (on : Option Bool) :
    s.toggle name on = .ok { s with entries := s.entries.map (·.toggle name on) } := by
  have there : ∃ e ∈ s.entries, e.rule.name = name := by simpa [rules] using known
  obtain ⟨e, he, rfl⟩ := there
  rw [toggle, find_of_mem names he]
  refine congrArg (fun entries => Except.ok { s with entries }) (List.map_congr_left fun d hd => ?_)
  rw [Entry.toggle]
  by_cases same : d.rule.name = e.rule.name
  · rw [if_pos (by simpa using same), if_pos same, eq_of_name_eq names hd he same]
  · rw [if_neg (by simpa using same), if_neg same]

/-- Toggles of names in the set change each entry by itself. -/
theorem toggleEach_eq {toggles : List (Text × Option Bool)}
    (known : ∀ toggle ∈ toggles, toggle.1 ∈ s.rules.map Rule.name) :
    s.toggleEach toggles = .ok { s with entries := s.entries.map (·.toggleEach toggles) } := by
  induction toggles generalizing s with
  | nil => exact congrArg (fun entries => Except.ok { s with entries }) (List.map_id _).symm
  | cons toggle toggles ih =>
    obtain ⟨here, later⟩ := List.forall_mem_cons.1 known
    have first := toggle_eq names here toggle.2
    rw [← rules_of_toggle first] at names later
    have step : s.toggleEach (toggle :: toggles) =
        s.toggle toggle.1 toggle.2 >>= (·.toggleEach toggles) := List.foldlM_cons
    rw [step, first]
    exact (ih names later).trans (by rw [List.map_map]; rfl)

/-- Toggles of two rules commute. -/
theorem toggleEach_comm {n m : Text} (hn : n ∈ s.rules.map Rule.name)
    (hm : m ∈ s.rules.map Rule.name) (apart : n ≠ m) (a b : Option Bool) :
    ∃ t, s.toggleEach [(n, a), (m, b)] = .ok t ∧ s.toggleEach [(m, b), (n, a)] = .ok t := by
  have known : ∀ toggle ∈ [(n, a), (m, b)], toggle.1 ∈ s.rules.map Rule.name :=
    List.forall_mem_cons.2 ⟨hn, List.forall_mem_singleton.2 hm⟩
  have known' : ∀ toggle ∈ [(m, b), (n, a)], toggle.1 ∈ s.rules.map Rule.name :=
    List.forall_mem_cons.2 ⟨hm, List.forall_mem_singleton.2 hn⟩
  refine ⟨_, toggleEach_eq names known, ?_⟩
  rw [toggleEach_eq names known']
  refine congrArg (fun entries => Except.ok { s with entries }) (List.map_congr_left fun e _ => ?_)
  exact (e.toggle_comm apart a b).symm

theorem isOn?_toggleEach {toggles : List (Text × Option Bool)} {t : RuleSet}
    (known : ∀ toggle ∈ toggles, toggle.1 ∈ s.rules.map Rule.name)
    (toggled : s.toggleEach toggles = .ok t) (name : Text) :
    t.isOn? name = (s.isOn? name).map (switchedBy name toggles) := by
  rw [toggleEach_eq names known] at toggled
  obtain rfl := Except.ok.inj toggled
  rw [isOn?_eq, isOn?_eq, List.find?_map, Option.map_map, Option.map_map]
  simp only [Function.comp_def, Entry.rule_toggleEach]
  refine Option.map_congr fun e found => ?_
  have same := List.find?_some found
  rw [Entry.isOn_toggleEach, beq_iff_eq.1 same]

end

/-! ## Reachable sets -/

/-- A set of which every entry is canonical. -/
def IsCanonical (s : RuleSet) : Prop := ∀ e ∈ s.entries, e.IsCanonical

theorem isCanonical_of_new (name : Text) : IsCanonical { name } :=
  fun _ member => absurd member List.not_mem_nil

/-- What holds of all entries and of a new one holds of all entries after an insertion. -/
theorem forall_mem_insert {P : Entry → Prop} {s : RuleSet} (h : ∀ e ∈ s.entries, P e) {r : Rule}
    (new : P { rule := r }) : ∀ e ∈ (s.insert r).entries, P e := by
  by_cases there : s.hasRule r.name = true
  · rwa [insert_of_hasRule there]
  have unknown : s.hasRule r.name = false := by simpa using there
  obtain ⟨before, after, whole, inserted⟩ := insert_splits unknown
  rw [whole, List.forall_mem_append] at h
  rw [inserted, List.forall_mem_append, List.forall_mem_cons]
  exact ⟨h.1, new, h.2⟩

theorem IsCanonical.insert {s : RuleSet} (h : s.IsCanonical) (r : Rule) :
    (s.insert r).IsCanonical :=
  forall_mem_insert h (Entry.isCanonical_of_new r)

theorem IsCanonical.toggle {s t : RuleSet} (h : s.IsCanonical) {name : Text} {on : Option Bool}
    (toggled : s.toggle name on = .ok t) : t.IsCanonical := by
  obtain ⟨e, _, made⟩ := bind_eq_ok_iff.1 toggled
  obtain rfl := Except.ok.inj made
  intro d hd
  obtain ⟨c, hc, rfl⟩ := List.mem_map.1 hd
  split
  · exact Entry.isCanonical_switch c _
  · exact h c hc

/-- A rule of a canonical set that is switched over twice is as it was, and so is the set. -/
theorem IsCanonical.toggleEach_twice {s : RuleSet} (h : s.IsCanonical)
    (names : (s.rules.map Rule.name).Nodup) {name : Text} (known : name ∈ s.rules.map Rule.name) :
    s.toggleEach [(name, none), (name, none)] = .ok s := by
  have each : s.entries.map (·.toggleEach [(name, none), (name, none)]) = s.entries := by
    conv_rhs => rw [← List.map_id s.entries]
    exact List.map_congr_left fun e he => (h e he).toggle_toggle name
  rw [toggleEach_eq names (List.forall_mem_cons.2 ⟨known, List.forall_mem_singleton.2 known⟩), each]

/-- Every set that calls have made is canonical. -/
theorem IsCanonical.run {s : RuleSet} (h : s.IsCanonical) (calls : List Call) :
    (s.run calls).IsCanonical :=
  run_induction (fun _ _ r _ _ h => h.insert r) (fun _ _ _ _ toggled h => h.toggle toggled) h

/-! ## Sets of a book -/

theorem IsDefault.insert {s : RuleSet} (h : s.IsDefault) (r : Rule) : (s.insert r).IsDefault :=
  forall_mem_insert h rfl

/-- A set that is read from a record has its rules under different names and with their defaults. -/
theorem of_ofRecord {record : SetRecord} {s : RuleSet} (read : ofRecord record = .ok s) :
    (s.rules.map Rule.name).Nodup ∧ s.IsDefault := by
  rw [ofRecord, ofCandidates] at read
  split at read
  · next t added =>
    obtain rfl := Except.ok.inj read
    have made : (RuleSet.addAll { name := record.name } (record.rules.map .record)).1 = t := by
      rw [added]
    subst made
    exact ⟨(addAll_induction (fun r _ _ h => h.insert r) (inOrder_of_new record.name)).names,
      addAll_induction (fun r _ _ h => h.insert r) fun _ member => absurd member List.not_mem_nil⟩
  · exact absurd read (by simp)

theorem of_mem_ruleSets {book : Book} {name : Option Text} {sets : List RuleSet}
    (read : book.ruleSets name = .ok sets) {s : RuleSet} (hs : s ∈ sets) :
    (s.rules.map Rule.name).Nodup ∧ s.IsDefault := by
  obtain ⟨all, each, chosen⟩ := bind_eq_ok_iff.1 read
  obtain rfl := Except.ok.inj chosen
  obtain ⟨record, _, made⟩ :=
    exists_of_forall₂ (mapM_eq_ok_iff.1 each).flip (List.mem_of_mem_filter hs)
  exact of_ofRecord made

/-- A rule that is set to one state, whatever else is set to it, is in that state. -/
theorem switchedBy_map_some (name : Text) (names : List Text) (state on : Bool) :
    switchedBy name (names.map (·, some state)) on = if name ∈ names then state else on := by
  induction names generalizing on with
  | nil => rfl
  | cons n names ih =>
    refine (ih _).trans ?_
    by_cases here : name = n
    · simp [here]
    · simp [here]

theorem switchedBy_select (name : Text) (enabled disabled : List Text) (on : Bool) :
    switchedBy name (enabled.map (·, some true) ++ disabled.map (·, some false)) on =
      decide (name ∉ disabled ∧ (name ∈ enabled ∨ on = true)) := by
  rw [switchedBy, List.foldl_append, ← switchedBy, ← switchedBy, switchedBy_map_some,
    switchedBy_map_some]
  by_cases off : name ∈ disabled <;> by_cases chosen : name ∈ enabled <;> simp [off, chosen]

/-- A set as it is by default, after a choice of rules to switch on and off. -/
theorem IsDefault.enabled_select {s : RuleSet} (default : s.IsDefault)
    (names : (s.rules.map Rule.name).Nodup) {enabled disabled : List Text}
    (known : ∀ name ∈ enabled ++ disabled, name ∈ s.rules.map Rule.name) :
    ∃ t, s.select enabled disabled = .ok t ∧ t.rules = s.rules ∧
      t.enabled = s.rules.filter fun r =>
        decide (r.name ∉ disabled ∧ (r.name ∈ enabled ∨ r.isOnByDefault = true)) := by
  have known : ∀ toggle ∈ enabled.map (·, some true) ++ disabled.map (·, some false),
      toggle.1 ∈ s.rules.map Rule.name := by
    intro toggle member
    apply known toggle.1
    rw [List.mem_append, List.mem_map, List.mem_map] at member
    rw [List.mem_append]
    rcases member with ⟨name, chosen, rfl⟩ | ⟨name, chosen, rfl⟩
    · exact Or.inl chosen
    · exact Or.inr chosen
  refine ⟨_, toggleEach_eq names known, ?_, ?_⟩
  · simp [rules, Function.comp_def]
  · rw [RuleSet.enabled, RuleSet.rules, List.filter_map, List.filter_map, List.map_map]
    simp only [Function.comp_def, Entry.rule_toggleEach]
    refine congrArg (List.map Entry.rule) (List.filter_congr fun e he => ?_)
    rw [Entry.isOn_toggleEach, switchedBy_select, default e he]

/-! ## Toggling -/

/-- In every set that calls have made, toggles of its rules all succeed and leave the rules in their
    order. Each rule is then on as its own toggles leave it, one after the other; what is kept of
    switches are the states that are not the default ones, and the rules that are off are listed in
    order. From then on, toggles of two different rules commute, and switching a rule over twice
    restores the set.

    So if all names that are to be switched on and off are those of rules of the set of a book, the
    set that is used has on just those rules that are not switched off, and are switched on or on by
    default. -/
theorem toggles_last_write_wins (name : Text) (calls : List Call)
    (toggles : List (Text × Option Bool)) :
    let s := run { name } calls
    ((∀ toggle ∈ toggles, toggle.1 ∈ s.rules.map Rule.name) →
      ∃ t, s.toggleEach toggles = .ok t ∧ t.rules = s.rules ∧
        (∀ n, t.isOn? n = (s.isOn? n).map (switchedBy n toggles)) ∧
        (∀ e ∈ t.entries, ∀ on,
          e.switched = some on ↔ t.isOn? e.rule.name = some on ∧ on ≠ e.rule.isOnByDefault) ∧
        t.skipped = t.rules.filter (fun r => t.isOn? r.name = some false) ∧
        (∀ n ∈ t.rules.map Rule.name, ∀ m ∈ t.rules.map Rule.name, n ≠ m → ∀ a b,
          ∃ u, t.toggleEach [(n, a), (m, b)] = .ok u ∧ t.toggleEach [(m, b), (n, a)] = .ok u) ∧
        ∀ n ∈ t.rules.map Rule.name, t.toggleEach [(n, none), (n, none)] = .ok t) ∧
    ∀ (book : Book) (e : CommandLine.Evolution) (s : RuleSet) (others : List RuleSet),
      book.ruleSets (some e.ruleSet) = .ok (s :: others) →
      (∀ n ∈ e.enabled ++ e.disabled, n ∈ s.rules.map Rule.name) →
      ∃ t, CommandLine.chooseRuleSet book e = .ok t ∧ t.rules = s.rules ∧
        t.enabled = s.rules.filter fun r =>
          decide (r.name ∉ e.disabled ∧ (r.name ∈ e.enabled ∨ r.isOnByDefault = true)) := by
  intro s
  constructor
  · intro known
    -- What the calls have kept is all that is needed of them: different names, canonical entries.
    have names := ((inOrder_of_new name).run calls).names
    have canonical := (isCanonical_of_new name).run calls
    have toggled := toggleEach_eq names known
    refine ⟨_, toggled, ?_⟩
    -- Both are kept by the toggles.
    have states := isOn?_toggleEach names known toggled
    generalize made :
      ({ s with entries := s.entries.map (·.toggleEach toggles) } : RuleSet) = t at *
    have rules : t.rules = s.rules := by
      simp [← made, RuleSet.rules, Function.comp_def]
    have canonical : t.IsCanonical := by
      rw [← made]
      intro e he
      obtain ⟨d, hd, rfl⟩ := List.mem_map.1 he
      exact (canonical d hd).toggleEach toggles
    have names : (t.rules.map Rule.name).Nodup := by rwa [rules]
    refine ⟨rules, states, fun e he on => ?_, skipped_eq names,
      fun n hn m hm apart => toggleEach_comm names hn hm apart,
      fun n hn => canonical.toggleEach_twice names hn⟩
    rw [isOn?_of_mem names he, Option.some_inj]
    exact (canonical e he).switched_eq_some_iff
  · intro book e s others read known
    obtain ⟨names, default⟩ := of_mem_ruleSets read List.mem_cons_self
    obtain ⟨t, selected, rules, enabled⟩ := default.enabled_select names known
    refine ⟨t, ?_, rules, enabled⟩
    rw [CommandLine.chooseRuleSet, read]
    simp only [CommandLine.orFail, bind, Except.bind, selected]

/-- The record of a rule that is off by default, and that of one that is on. -/
def bothDefaults : List Record := [
  [(Field.key .name, .text ['a']), (Field.key .notated, .text "[a] > [e]".toList),
    (Field.key .skip, .flag true)],
  [(Field.key .name, .text ['b']), (Field.key .notated, .text "[i] > [e]".toList)]]

theorem toggles_last_write_wins_of_bothDefaults :
    let s := run { name := ['s'] } [.addAll (bothDefaults.map .record), .toggle ['b'] none]
    let toggles : List (Text × Option Bool) :=
      [(['a'], none), (['b'], none), (['a'], none), (['b'], some false), (['a'], some true)]
    let book : Book := ⟨"rules.py", [⟨['s'], bothDefaults⟩]⟩
    let e : CommandLine.Evolution := ⟨[], [], ['s'], [['a'], ['b']], [['b']], false⟩
    (∀ toggle ∈ toggles, toggle.1 ∈ s.rules.map Rule.name) ∧
      (∃ t, s.toggleEach toggles = .ok t ∧ t.isOn? ['a'] = some true ∧ t.isOn? ['b'] = some false ∧
        t.toggleEach [(['b'], none), (['b'], none)] = .ok t) ∧
      ∃ r others t, book.ruleSets (some e.ruleSet) = .ok (r :: others) ∧
        (∀ n ∈ e.enabled ++ e.disabled, n ∈ r.rules.map Rule.name) ∧
        CommandLine.chooseRuleSet book e = .ok t ∧
        t.enabled = r.rules.filter fun r =>
          decide (r.name ∉ e.disabled ∧ (r.name ∈ e.enabled ∨ r.isOnByDefault = true)) := by
  intro s toggles book e
  have names : s.rules.map Rule.name = [['a'], ['b']] := by decide +kernel
  have known : ∀ toggle ∈ toggles, toggle.1 ∈ s.rules.map Rule.name := by
    rw [names]
    decide
  obtain ⟨toggling, choosing⟩ := toggles_last_write_wins ['s']
    [.addAll (bothDefaults.map .record), .toggle ['b'] none] toggles
  obtain ⟨t, toggled, rules, states, _, _, _, twice⟩ := toggling known
  have before : s.isOn? ['a'] = some false ∧ s.isOn? ['b'] = some false := by decide +kernel
  refine ⟨known, ⟨t, toggled, ?_, ?_, ?_⟩, ?_⟩
  · exact (states ['a']).trans (by rw [before.1]; decide)
  · exact (states ['b']).trans (by rw [before.2]; decide)
  · exact twice ['b'] (by rw [rules, names]; decide)
  · have read : (book.ruleSets (some e.ruleSet)).toOption.map
        (·.map fun r => r.rules.map Rule.name) = some [[['a'], ['b']]] := by decide +kernel
    obtain ⟨sets, found, names⟩ := Option.map_eq_some_iff.1 read
    obtain ⟨r, others, rfl, names, _⟩ := List.map_eq_cons_iff.1 names
    have found := eq_ok_of_toOption_eq_some found
    have known : ∀ n ∈ e.enabled ++ e.disabled, n ∈ r.rules.map Rule.name := by
      rw [names]
      decide
    obtain ⟨t, chosen, _, enabled⟩ := choosing book e r others found known
    exact ⟨r, others, t, found, known, chosen, enabled⟩

end SoundLaw.RuleSet
