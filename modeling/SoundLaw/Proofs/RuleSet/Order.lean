/-
  SoundLaw.Proofs.RuleSet.Order

  The order of the rules of a rule set. They are the stable sort, by their order keys, of the rules
  that were accepted, of which the first of each name stays. One insertion keeps them so
  (`Sorts.insert`), and leaves the other rules switched as they are (`isOn?_insert`).

  All this is about plain rules: their order keys are texts or missing, and their defaults are truth
  values. The rules of valid records are plain.
-/
import Mathlib.Data.Char
import Mathlib.Data.List.Lex
import SoundLaw.Proofs.RuleSet.StableSort
import SoundLaw.Proofs.Traversal
import SoundLaw.RuleSet

namespace SoundLaw

/-! ## Plain rules -/

/-- A rule whose order key is a text, or none, and whose default is a truth value. -/
structure Rule.IsPlain (r : Rule) : Prop where
  orderId : r.orderId = .null ∨ ∃ t, r.orderId = .text t
  skip : ∃ off, r.skip = .flag off

/-- The value by which a rule is sorted: first whether it has no order key, and then the key. -/
def Rule.sortPair (r : Rule) : Bool × Text := (r.orderId.isNull, r.orderId.asText)

/-- Whether a pair is less than another one: in its first part or else in its second one, where
    texts are compared by code points. -/
def isPairLess (a b : Bool × Text) : Bool := (!a.1 && b.1) || (a.1 == b.1 && decide (a.2 < b.2))

/-- Whether a rule may stand before another one. -/
def Rule.mayPrecede (a b : Rule) : Bool := !isPairLess b.sortPair a.sortPair

theorem Rule.mayPrecede_iff {a b : Rule} :
    a.mayPrecede b = true ↔ (b.orderId.isNull = false → a.orderId.isNull = false) ∧
      (a.orderId.isNull = b.orderId.isNull → ¬b.orderId.asText < a.orderId.asText) := by
  rw [Rule.mayPrecede, isPairLess, Rule.sortPair, Rule.sortPair]
  cases a.orderId.isNull <;> cases b.orderId.isNull <;> simp

theorem Rule.mayPrecede_trans (a b c : Rule) (hab : a.mayPrecede b = true)
    (hbc : b.mayPrecede c = true) : a.mayPrecede c = true := by
  rw [Rule.mayPrecede_iff] at hab hbc ⊢
  refine ⟨fun keyed => hab.1 (hbc.1 keyed), fun same less => ?_⟩
  -- Between two rules of one sort there are only rules of that sort.
  have kinds : a.orderId.isNull = b.orderId.isNull ∧ b.orderId.isNull = c.orderId.isNull := by
    cases ha : a.orderId.isNull <;> cases hb : b.orderId.isNull <;>
      cases hc : c.orderId.isNull <;> simp_all
  rcases lt_trichotomy b.orderId.asText c.orderId.asText with before | here | after
  · exact hab.2 kinds.1 (lt_trans before less)
  · exact hab.2 kinds.1 (here ▸ less)
  · exact hbc.2 kinds.2 after

theorem Rule.mayPrecede_total (a b : Rule) : (a.mayPrecede b || b.mayPrecede a) = true := by
  rw [Bool.or_eq_true, Rule.mayPrecede_iff, Rule.mayPrecede_iff]
  rcases lt_or_ge b.orderId.asText a.orderId.asText with less | least
  · have greater := lt_asymm less
    cases a.orderId.isNull <;> cases b.orderId.isNull <;> simp [greater]
  · have greater := not_lt_of_ge least
    cases a.orderId.isNull <;> cases b.orderId.isNull <;> simp [greater]

theorem Rule.mayPrecede_of_sortPair_eq {a b : Rule} (tied : a.sortPair = b.sortPair) :
    a.mayPrecede b = true := by
  obtain ⟨null, text⟩ := Prod.mk.inj tied
  rw [Rule.mayPrecede_iff, null, text]
  exact ⟨id, fun _ => lt_irrefl _⟩

theorem Rule.asText_of_isNull {r : Rule} (null : r.orderId.isNull = true) :
    r.orderId.asText = [] := by
  cases key : r.orderId with
  | null => rfl
  | _ => simp [key, Value.isNull] at null

namespace RuleSet

theorem asText_sortKey {r : Rule} (h : r.IsPlain) :
    (sortKey r).measure? = none ∧ (sortKey r).asText = r.orderId.asText := by
  rw [sortKey]
  rcases h.orderId with null | ⟨t, text⟩
  · rw [null]
    exact ⟨rfl, rfl⟩
  · rw [text]
    cases t with
    | nil => exact ⟨rfl, rfl⟩
    | cons c t => exact ⟨rfl, rfl⟩

/-- A plain rule precedes another one if that one may not stand before it. -/
theorem precedes_eq_not_mayPrecede {a b : Rule} (ha : a.IsPlain) (hb : b.IsPlain) :
    precedes a b = !b.mayPrecede a := by
  obtain ⟨noNumber, text⟩ := asText_sortKey ha
  have other := (asText_sortKey hb).2
  rw [precedes, isLess, noNumber, text, other, Rule.mayPrecede, Bool.not_not, isPairLess,
    Rule.sortPair, Rule.sortPair]
  cases first : a.orderId.isNull with
  | false => cases b.orderId.isNull <;> simp
  | true =>
    cases second : b.orderId.isNull with
    | false => simp
    | true => simp [Rule.asText_of_isNull first, Rule.asText_of_isNull second]

/-- Rules can be sorted if every order key that is given is a text. -/
theorem isSortable_of_textKeys {rules : List Rule}
    (keys : ∀ r ∈ rules, r.orderId = .null ∨ ∃ t, r.orderId = .text t) :
    isSortable rules = true := by
  rw [isSortable, decide_eq_true_eq]
  refine List.Pairwise.imp_of_mem (R := fun _ _ => True) ?_ (List.pairwise_of_forall fun _ _ => trivial)
  intro a b ha hb _
  rw [isComparable]
  rcases keys a ha with null | ⟨t, text⟩
  · simp [null, Value.isNull]
  · rcases keys b hb with null | ⟨u, text'⟩
    · simp [null, Value.isNull]
    · have first : (sortKey a).isText = true := by
        rw [sortKey, text]
        split <;> rfl
      have second : (sortKey b).isText = true := by
        rw [sortKey, text']
        split <;> rfl
      simp [first, second]

theorem isSortable_of_isPlain {rules : List Rule} (plain : ∀ r ∈ rules, r.IsPlain) :
    isSortable rules = true :=
  isSortable_of_textKeys fun r hr => (plain r hr).orderId

/-- Plain rules are inserted behind all those that may stand before them. -/
theorem map_rule_insertEntry {e : Entry} (he : e.rule.IsPlain) {entries : List Entry}
    (plain : ∀ d ∈ entries, d.rule.IsPlain) :
    (insertEntry e entries).map Entry.rule =
      insertLast Rule.mayPrecede e.rule (entries.map Entry.rule) := by
  induction entries with
  | nil => rfl
  | cons d entries ih =>
    obtain ⟨hd, others⟩ := List.forall_mem_cons.1 plain
    rw [insertEntry, List.map_cons, insertLast, precedes_eq_not_mayPrecede he hd]
    cases d.rule.mayPrecede e.rule with
    | true => simp [ih others]
    | false => simp

/-! ## Insertion -/

theorem hasRule_iff {s : RuleSet} {name : Text} :
    s.hasRule name = true ↔ name ∈ s.rules.map Rule.name := by
  simp [hasRule, rules]

theorem insertEntry_splits (e : Entry) (entries : List Entry) :
    ∃ before after, entries = before ++ after ∧ insertEntry e entries = before ++ e :: after := by
  induction entries with
  | nil => exact ⟨[], [], rfl, rfl⟩
  | cons d entries ih =>
    rw [insertEntry]
    split
    · exact ⟨[], d :: entries, rfl, rfl⟩
    · obtain ⟨before, after, whole, inserted⟩ := ih
      exact ⟨d :: before, after, by rw [whole, List.cons_append],
        by rw [inserted, List.cons_append]⟩

/-- A rule of a new name comes somewhere among the entries, with its default. -/
theorem insert_splits {s : RuleSet} {r : Rule} (new : s.hasRule r.name = false) :
    ∃ before after, s.entries = before ++ after ∧
      (s.insert r).entries = before ++ { rule := r } :: after := by
  rw [insert, if_neg (by rw [new]; exact Bool.false_ne_true)]
  split
  · exact insertEntry_splits { rule := r } s.entries
  · exact ⟨s.entries, [], (List.append_nil _).symm, rfl⟩

theorem insert_of_hasRule {s : RuleSet} {r : Rule} (there : s.hasRule r.name = true) :
    s.insert r = s := by
  rw [insert, if_pos there]

theorem mem_rules_insert {s : RuleSet} {r q : Rule} (member : q ∈ (s.insert r).rules) :
    q ∈ s.rules ∨ q = r ∧ s.hasRule r.name = false := by
  by_cases there : s.hasRule r.name = true
  · rw [insert_of_hasRule there] at member
    exact Or.inl member
  · have new : s.hasRule r.name = false := by simpa using there
    obtain ⟨before, after, whole, inserted⟩ := insert_splits new
    rw [rules, inserted, List.map_append, List.map_cons, List.mem_append, List.mem_cons] at member
    rw [rules, whole, List.map_append, List.mem_append]
    rcases member with early | here | late
    · exact Or.inl (Or.inl early)
    · exact Or.inr ⟨here, new⟩
    · exact Or.inl (Or.inr late)

/-- Whether the rule of a name is on, if there is one. -/
def isOn? (s : RuleSet) (name : Text) : Option Bool := (s.find name).toOption.map Entry.isOn

theorem isOn?_eq (s : RuleSet) (name : Text) :
    s.isOn? name = (s.entries.find? (·.rule.name == name)).map Entry.isOn := by
  rw [isOn?, find]
  split
  · next found => rw [found]; rfl
  · next missing => rw [missing]; rfl

theorem isOn?_eq_none_iff {s : RuleSet} {name : Text} :
    s.isOn? name = none ↔ s.hasRule name = false := by
  rw [isOn?_eq, hasRule]
  simp

/-- A rule that is added leaves the others switched as they are, and has its default itself. -/
theorem isOn?_insert (s : RuleSet) (r : Rule) (name : Text) :
    (s.insert r).isOn? name =
      (s.isOn? name).or (if r.name = name then some r.isOnByDefault else none) := by
  by_cases there : s.hasRule r.name = true
  · rw [insert_of_hasRule there]
    by_cases same : r.name = name
    · have known : s.isOn? name ≠ none := by
        rw [Ne, isOn?_eq_none_iff, ← same, there]
        exact Bool.false_ne_true.symm
      obtain ⟨on, known⟩ := Option.ne_none_iff_exists'.1 known
      rw [known, Option.some_or]
    · rw [if_neg same, Option.or_none]
  · have new : s.hasRule r.name = false := by simpa using there
    obtain ⟨before, after, whole, inserted⟩ := insert_splits new
    rw [isOn?_eq, isOn?_eq, inserted, whole, List.find?_append, List.find?_append,
      List.find?_cons]
    by_cases same : r.name = name
    · -- There was no rule of this name, on neither side of the new one.
      have nowhere : (before ++ after).find? (·.rule.name == name) = none := by
        rw [← whole, ← Option.map_eq_none_iff (f := Entry.isOn), ← isOn?_eq, isOn?_eq_none_iff,
          ← same, new]
      rw [List.find?_append, Option.or_eq_none_iff] at nowhere
      simp [same, nowhere.1, nowhere.2, Entry.isOn]
    · have other : (r.name == name) = false := by simpa using same
      simp [same, other]

/-- Rules that are added leave the others switched as they are. -/
theorem isOn?_foldl_insert {s : RuleSet} {name : Text} {on : Bool} (known : s.isOn? name = some on)
    (added : List Rule) : (added.foldl insert s).isOn? name = some on := by
  induction added generalizing s with
  | nil => exact known
  | cons r added ih => exact ih (by rw [isOn?_insert, known, Option.some_or])

/-- A rule that was not there before some rules are added has its default. -/
theorem isOn?_of_mem_foldl_insert {s : RuleSet} {added : List Rule} {r : Rule}
    (member : r ∈ (added.foldl insert s).rules) :
    r ∈ s.rules ∨ (added.foldl insert s).isOn? r.name = some r.isOnByDefault := by
  induction added generalizing s with
  | nil => exact Or.inl member
  | cons q added ih =>
    rcases ih member with before | default
    · rcases mem_rules_insert before with there | ⟨rfl, new⟩
      · exact Or.inl there
      · refine Or.inr (isOn?_foldl_insert ?_ added)
        rw [isOn?_insert, isOn?_eq_none_iff.2 new, Option.none_or, if_pos rfl]
    · exact Or.inr default

/-! ## The sorted first rules -/

/-- The rules of a set are the first ones of each name, sorted, of those that were accepted. -/
structure Sorts (s : RuleSet) (accepted : List Rule) : Prop where
  plain : ∀ r ∈ accepted, r.IsPlain
  rules : s.rules = (firsts Rule.name accepted).mergeSort Rule.mayPrecede

theorem Sorts.name_mem_iff {s : RuleSet} {accepted : List Rule} (h : s.Sorts accepted)
    {name : Text} : name ∈ s.rules.map Rule.name ↔ name ∈ accepted.map Rule.name := by
  rw [h.rules, ((List.mergeSort_perm _ _).map Rule.name).mem_iff, mem_map_firsts]

theorem Sorts.isPlain_rules {s : RuleSet} {accepted : List Rule} (h : s.Sorts accepted) :
    ∀ r ∈ s.rules, r.IsPlain := by
  intro r hr
  rw [h.rules, List.mem_mergeSort] at hr
  exact h.plain r ((firsts_sublist accepted).subset hr)

theorem Sorts.isSortable {s : RuleSet} {accepted : List Rule} (h : s.Sorts accepted) {r : Rule}
    (plain : r.IsPlain) : isSortable (s.rules ++ [r]) = true := by
  apply isSortable_of_isPlain
  intro q hq
  rcases List.mem_append.1 hq with before | last
  · exact h.isPlain_rules q before
  · rw [List.mem_singleton.1 last]
    exact plain

theorem Sorts.insert {s : RuleSet} {accepted : List Rule} (h : s.Sorts accepted) {r : Rule}
    (plain : r.IsPlain) : (s.insert r).Sorts (accepted ++ [r]) where
  plain := by
    intro q hq
    rcases List.mem_append.1 hq with before | last
    · exact h.plain q before
    · rw [List.mem_singleton.1 last]
      exact plain
  rules := by
    rw [firsts_append_singleton]
    by_cases there : s.hasRule r.name = true
    · rw [insert_of_hasRule there, if_pos (h.name_mem_iff.1 (hasRule_iff.1 there)),
        List.append_nil, h.rules]
    · have new : r.name ∉ accepted.map Rule.name :=
        fun member => there (hasRule_iff.2 (h.name_mem_iff.2 member))
      rw [RuleSet.insert, if_neg there, if_pos (h.isSortable plain), if_neg new,
        mergeSort_append_singleton Rule.mayPrecede_trans Rule.mayPrecede_total, ← h.rules]
      exact map_rule_insertEntry plain fun d hd =>
        h.isPlain_rules d.rule (List.mem_map_of_mem hd)

theorem Sorts.foldl_insert {s : RuleSet} {accepted added : List Rule} (h : s.Sorts accepted)
    (plain : ∀ r ∈ added, r.IsPlain) :
    (added.foldl RuleSet.insert s).Sorts (accepted ++ added) := by
  induction added generalizing s accepted with
  | nil => rwa [List.append_nil]
  | cons r added ih =>
    obtain ⟨first, others⟩ := List.forall_mem_cons.1 plain
    have step := ih (h.insert first) others
    rwa [List.append_assoc, List.singleton_append] at step

theorem Sorts.insertFault?_eq_none {s : RuleSet} {accepted : List Rule} (h : s.Sorts accepted)
    {r : Rule} (plain : r.IsPlain) : s.insertFault? r = none := by
  rw [insertFault?, h.isSortable plain, Bool.or_true, if_pos rfl]

end RuleSet

end SoundLaw
