import ModelForm.Proofs.Interpretation
import ModelForm.Proofs.Rounding
import Mathlib.Order.MinMax

/-!
Rules and their constraints. The constraint of a rule is suited to the kind of a schema
exactly where the rule applies to the domain, it holds of the values of the domain that
satisfy the rule, and it has the report of the rule. So among the constraints made from a
list of rules the first one violated is that of the first rule broken.
-/

namespace ModelForm

namespace Binary64

/-- A length is at least a bound exactly if it is at least the next whole number. -/
theorem ceilNat?_le_iff (x : Binary64) (n least : Nat) (h : x.ceilNat? = some least) :
    least ≤ n ↔ x.atMost n = true := by
  cases x with
  | finite s u =>
    have hpos := unitsPerOne_pos
    simp only [ceilNat?, Option.some.injEq] at h
    subst h
    simp only [atMost, decide_eq_true_eq]
    have hcast : (n : Int) * (unitsPerOne : Int) = ((n * unitsPerOne : Nat) : Int) :=
      (Int.natCast_mul n unitsPerOne).symm
    rw [hcast]
    cases s with
    | true =>
      simp only [signedUnits, if_true]
      omega
    | false =>
      simp only [signedUnits, Bool.false_eq_true, if_false]
      rw [← Nat.lt_succ_iff, Nat.div_lt_iff_lt_mul hpos, Nat.succ_mul]
      omega
  | infinite s => simp [ceilNat?] at h
  | nan => simp [ceilNat?] at h

/-- A length is at most a bound exactly if it is at most the whole number before it. -/
theorem le_floorNat?_iff (x : Binary64) (n most : Nat) (h : x.floorNat? = some most) :
    n ≤ most ↔ x.atLeast n = true := by
  cases x with
  | finite s u =>
    have hpos := unitsPerOne_pos
    simp only [floorNat?] at h
    split at h
    · simp at h
    · rename_i hsign
      have hvalue : signedUnits s u = (u : Int) := by
        cases s <;> simp_all [signedUnits]
      obtain rfl := Option.some.inj h
      simp only [atLeast, decide_eq_true_eq, hvalue]
      rw [Nat.le_div_iff_mul_le hpos]
      exact_mod_cast Iff.rfl
  | infinite s => simp [floorNat?] at h
  | nan => simp [floorNat?] at h

theorem isSome_ceilNat? (x : Binary64) : x.ceilNat?.isSome = x.isFinite := by
  cases x <;> rfl

/-- A bound with a whole number before it is one that is not negative. -/
theorem isSome_floorNat? (x : Binary64) : x.floorNat?.isSome = (x.isFinite && x.atLeast 0) := by
  cases x with
  | finite s u =>
    unfold floorNat? atLeast
    generalize unitsPerOne = unit
    cases s <;> by_cases hu : u = 0 <;> simp [isFinite, signedUnits, hu]
  | infinite s => rfl
  | nan => rfl

end Binary64

namespace Domain

/-- The kind of the schema of a domain, unless the schema is open to anything. -/
def kind? : Domain → Option Kind
  | .text => some .string
  | .number => some .number
  | .boolean => some .boolean
  | .choice values => some (.literal values)
  | .any => none

def message (messages : Messages) : Domain → Option String
  | .text => messages.string
  | .number => messages.number
  | .boolean => messages.boolean
  | .choice _ => messages.enumeration
  | .any => none

/-- Each atomic schema has the kind of its domain. -/
theorem kind?_cases (d : Domain) (k : Kind) (hk : d.kind? = some k) :
    (d = .text ∧ k = .string) ∨ (d = .number ∧ k = .number) ∨ (d = .boolean ∧ k = .boolean) ∨
      ∃ values, d = .choice values ∧ k = .literal values := by
  cases d <;> simp_all [kind?]

theorem accepts_eq_contains (d : Domain) (k : Kind) (hk : d.kind? = some k) (v : Json) :
    k.accepts v = d.contains v := by
  rcases kind?_cases d k hk with ⟨rfl, rfl⟩ | ⟨rfl, rfl⟩ | ⟨rfl, rfl⟩ | ⟨values, rfl, rfl⟩ <;>
    cases v <;> rfl

theorem outside?_eq (messages : Messages) (d : Domain) (k : Kind) (hk : d.kind? = some k)
    (v : Json) (h : d.contains v = false) (cs : List Constraint) :
    d.outside? messages v = some (AtomicSchema.typeReport ⟨k, d.message messages, cs⟩) := by
  rcases kind?_cases d k hk with ⟨rfl, rfl⟩ | ⟨rfl, rfl⟩ | ⟨rfl, rfl⟩ | ⟨values, rfl, rfl⟩ <;>
    simp only [outside?, h] <;> rfl

theorem outside?_eq_none_iff (messages : Messages) (d : Domain) (v : Json) :
    d.outside? messages v = none ↔ d.contains v = true := by
  cases hcontains : d.contains v with
  | true => simp [outside?, hcontains]
  | false =>
    cases d with
    | any => simp [contains] at hcontains
    | _ => simp [outside?, hcontains]

theorem isString_eq (d : Domain) (k : Kind) (hk : d.kind? = some k) :
    k.isString = decide (d = .text) := by
  rcases kind?_cases d k hk with ⟨rfl, rfl⟩ | ⟨rfl, rfl⟩ | ⟨rfl, rfl⟩ | ⟨values, rfl, rfl⟩ <;> rfl

theorem isNumber_eq (d : Domain) (k : Kind) (hk : d.kind? = some k) :
    k.isNumber = decide (d = .number) := by
  rcases kind?_cases d k hk with ⟨rfl, rfl⟩ | ⟨rfl, rfl⟩ | ⟨rfl, rfl⟩ | ⟨values, rfl, rfl⟩ <;> rfl

theorem exists_of_contains_text (v : Json) (h : Domain.text.contains v = true) :
    ∃ s, v = .string s := by
  cases v with
  | string s => exact ⟨s, rfl⟩
  | _ => simp [contains] at h

theorem exists_of_contains_number (v : Json) (h : Domain.number.contains v = true) :
    ∃ n, v = .number n := by
  cases v with
  | number n => exact ⟨n, rfl⟩
  | _ => simp [contains] at h

end Domain

inductive Rule.Demands (checks : Checks) : Rule → Requirement → Prop
  | minLength (x : Binary64) (least : Nat) (message : Option String)
      (h : x.ceilNat? = some least) :
      Demands checks ⟨.minLength, some (.number x), message⟩ (.minLength (min least lastLength))
  | maxLength (x : Binary64) (most : Nat) (message : Option String)
      (h : x.floorNat? = some most) :
      Demands checks ⟨.maxLength, some (.number x), message⟩ (.maxLength (min most lastLength))
  | min (x : Binary64) (message : Option String) (h : x.isFinite = true) :
      Demands checks ⟨.min, some (.number x), message⟩ (.min x)
  | max (x : Binary64) (message : Option String) (h : x.isFinite = true) :
      Demands checks ⟨.max, some (.number x), message⟩ (.max x)
  | pattern (source : String) (message : Option String) :
      Demands checks ⟨.pattern, some (.text source), message⟩ (.pattern (Pattern.ofText source))
  | email (value : Option RuleValue) (message : Option String) :
      Demands checks ⟨.email, value, message⟩ .email
  | url (value : Option RuleValue) (message : Option String) :
      Demands checks ⟨.url, value, message⟩ .url
  | custom (name : String) (check : Check) (message : Option String)
      (h : checks.find? name = some check) :
      Demands checks ⟨.custom, some (.text name), message⟩ (.custom check)

namespace Rule

variable (checks : Checks)

theorem exists_of_number? (r : Rule) (x : Binary64) (h : r.number? = some x) :
    r.value = some (.number x) := by
  unfold number? at h
  split at h
  · rename_i y hy
    rw [hy, Option.some.inj h]
  · simp at h

theorem exists_of_text? (r : Rule) (s : String) (h : r.text? = some s) :
    r.value = some (.text s) := by
  unfold text? at h
  split at h
  · rename_i t ht
    rw [ht, Option.some.inj h]
  · simp at h

theorem demands_of_requirement? (r : Rule) (q : Requirement)
    (h : r.requirement? checks = some q) : r.Demands checks q := by
  obtain ⟨kind, value, message⟩ := r
  cases kind with
  | required => simp [requirement?] at h
  | minLength =>
    simp only [requirement?, Option.map_eq_some_iff, Option.bind_eq_some_iff] at h
    obtain ⟨least, ⟨x, hx, hleast⟩, rfl⟩ := h
    obtain rfl := exists_of_number? _ x hx
    exact .minLength x least message hleast
  | maxLength =>
    simp only [requirement?, Option.map_eq_some_iff, Option.bind_eq_some_iff] at h
    obtain ⟨most, ⟨x, hx, hmost⟩, rfl⟩ := h
    obtain rfl := exists_of_number? _ x hx
    exact .maxLength x most message hmost
  | min =>
    simp only [requirement?, Option.map_eq_some_iff, Option.filter_eq_some_iff] at h
    obtain ⟨x, ⟨hx, hfinite⟩, rfl⟩ := h
    obtain rfl := exists_of_number? _ x hx
    exact .min x message hfinite
  | max =>
    simp only [requirement?, Option.map_eq_some_iff, Option.filter_eq_some_iff] at h
    obtain ⟨x, ⟨hx, hfinite⟩, rfl⟩ := h
    obtain rfl := exists_of_number? _ x hx
    exact .max x message hfinite
  | pattern =>
    simp only [requirement?, Option.map_eq_some_iff] at h
    obtain ⟨source, hsource, rfl⟩ := h
    obtain rfl := exists_of_text? _ source hsource
    exact .pattern source message
  | email =>
    obtain rfl := Option.some.inj h
    exact .email value message
  | url =>
    obtain rfl := Option.some.inj h
    exact .url value message
  | custom =>
    simp only [requirement?, Option.map_eq_some_iff, Option.bind_eq_some_iff] at h
    obtain ⟨check, ⟨name, hname, hcheck⟩, rfl⟩ := h
    obtain rfl := exists_of_text? _ name hname
    exact .custom name check message hcheck

/-- Rules are meant for the schemas whose kind their requirement suits; only a check is meant for
other schemas too. -/
theorem suited_of_admits (r : Rule) (q : Requirement) (h : r.Demands checks q) (s : Schema)
    (hs : s.admits r.kind = false) : s.kind?.any (Schema.suited q) = false := by
  cases h with
  | custom name check message h => simp [Schema.admits] at hs
  | _ => simpa [Schema.admits, Schema.isString, Schema.isNumber, Schema.suited] using hs

/-- A rule that requires something applies where its requirement is suited. -/
theorem suited_eq_applies (r : Rule) (q : Requirement) (h : r.Demands checks q) (d : Domain)
    (k : Kind) (hk : d.kind? = some k) : Schema.suited q k = r.applies checks d := by
  have hstring := Domain.isString_eq d k hk
  have hnumber := Domain.isNumber_eq d k hk
  cases h with
  | minLength x least message h =>
    have hfinite : x.isFinite = true := by rw [← Binary64.isSome_ceilNat?, h, Option.isSome_some]
    cases d <;> simp [Schema.suited, hstring, applies, hfinite]
  | maxLength x most message h =>
    have hbound : (x.isFinite && x.atLeast 0) = true := by
      rw [← Binary64.isSome_floorNat?, h, Option.isSome_some]
    cases d <;> simp [Schema.suited, hstring, applies, hbound]
  | min x message h => cases d <;> simp [Schema.suited, hnumber, applies, h]
  | max x message h => cases d <;> simp [Schema.suited, hnumber, applies, h]
  | pattern source message => cases d <;> simp [Schema.suited, hstring, applies]
  | email value message => cases d <;> simp [Schema.suited, hstring, applies]
  | url value message => cases d <;> simp [Schema.suited, hstring, applies]
  | custom name check message h =>
    cases d with
    | any => simp [Domain.kind?] at hk
    | _ => simp [Schema.suited, applies, h]

/-- A rule that requires nothing applies nowhere. -/
theorem applies_of_requirement?_none (r : Rule) (h : r.requirement? checks = none) (d : Domain) :
    r.applies checks d = false := by
  obtain ⟨kind, value, message⟩ := r
  rcases value with _ | x | s
  · cases kind <;> cases d <;> simp_all [requirement?, applies, number?, text?]
  · cases kind with
    | minLength =>
      have hnone : x.ceilNat? = none := by simpa [requirement?, number?] using h
      have hfinite : x.isFinite = false := by
        rw [← Binary64.isSome_ceilNat?, hnone, Option.isSome_none]
      cases d <;> simp [applies, hfinite]
    | maxLength =>
      have hnone : x.floorNat? = none := by simpa [requirement?, number?] using h
      have hbound : (x.isFinite && x.atLeast 0) = false := by
        rw [← Binary64.isSome_floorNat?, hnone, Option.isSome_none]
      cases d <;> simp [applies, hbound]
    | _ => cases d <;> simp_all [requirement?, applies, number?, text?]
  · cases kind <;> cases d <;> simp_all [requirement?, applies, number?, text?]

theorem applies_any (r : Rule) : r.applies checks .any = false := by
  obtain ⟨kind, value, message⟩ := r
  rcases value with _ | x | s <;> cases kind <;> rfl

/-- The rules about texts apply to texts only. -/
theorem exists_string_of_applies (r : Rule) (d : Domain) (happlies : r.applies checks d = true)
    (hkind : r.kind ∈ [RuleKind.minLength, .maxLength, .pattern, .email, .url]) (v : Json)
    (hv : d.contains v = true) : ∃ s, v = .string s := by
  obtain ⟨kind, value, message⟩ := r
  have hd : d = .text := by
    rcases value with _ | x | s <;> cases kind <;> cases d <;> simp_all [applies]
  exact Domain.exists_of_contains_text v (hd ▸ hv)

/-- The rules about numbers apply to numbers only. -/
theorem exists_number_of_applies (r : Rule) (d : Domain) (happlies : r.applies checks d = true)
    (hkind : r.kind ∈ [RuleKind.min, .max]) (v : Json) (hv : d.contains v = true) :
    ∃ n, v = .number n := by
  obtain ⟨kind, value, message⟩ := r
  have hd : d = .number := by
    rcases value with _ | x | s <;> cases kind <;> cases d <;> simp_all [applies]
  exact Domain.exists_of_contains_number v (hd ▸ hv)

/-- A requirement holds of the values of a domain that it is suited to exactly where its rule
does. -/
theorem requirement_holds (r : Rule) (q : Requirement) (h : r.Demands checks q) (d : Domain)
    (happlies : r.applies checks d = true) (v : Json) (hv : d.contains v = true) :
    q.holds v = r.holds checks v := by
  cases h with
  | minLength x least message h =>
    obtain ⟨s, rfl⟩ := exists_string_of_applies checks _ d happlies (by simp) v hv
    have hleast := Binary64.ceilNat?_le_iff x (Text.length16 s) least h
    show Except.ok (decide (min least lastLength ≤ Text.length16 s)) =
      .ok (x.atMost (Text.length16 s) || decide (lastLength ≤ Text.length16 s))
    refine congrArg Except.ok ?_
    rw [Bool.eq_iff_iff]
    simp only [Bool.or_eq_true, decide_eq_true_eq, ← hleast, min_le_iff]
  | maxLength x most message h =>
    obtain ⟨s, rfl⟩ := exists_string_of_applies checks _ d happlies (by simp) v hv
    have hmost := Binary64.le_floorNat?_iff x (Text.length16 s) most h
    show Except.ok (decide (Text.length16 s ≤ min most lastLength)) =
      .ok (x.atLeast (Text.length16 s) && decide (Text.length16 s ≤ lastLength))
    refine congrArg Except.ok ?_
    rw [Bool.eq_iff_iff]
    simp only [Bool.and_eq_true, decide_eq_true_eq, ← hmost, Nat.le_min]
  | min x message h =>
    obtain ⟨n, rfl⟩ := exists_number_of_applies checks _ d happlies (by simp) v hv
    rfl
  | max x message h =>
    obtain ⟨n, rfl⟩ := exists_number_of_applies checks _ d happlies (by simp) v hv
    rfl
  | pattern source message =>
    obtain ⟨s, rfl⟩ := exists_string_of_applies checks _ d happlies (by simp) v hv
    simp only [Requirement.holds, Requirement.matchesPattern, holds]
    cases (Pattern.ofText source).occurs? s <;> rfl
  | email value message =>
    obtain ⟨s, rfl⟩ := exists_string_of_applies checks _ d happlies (by simp) v hv
    simp only [Requirement.holds, Requirement.onText, holds]
  | url value message =>
    obtain ⟨s, rfl⟩ := exists_string_of_applies checks _ d happlies (by simp) v hv
    simp only [Requirement.holds, Requirement.onText, holds]
  | custom name check message h =>
    show Except.ok (check.passes v) = .ok ((checks.find? name).all fun check => check.passes v)
    rw [h, Option.all_some]

/-- A requirement reports what its rule does. -/
theorem report_eq (r : Rule) (q : Requirement) (h : r.Demands checks q) :
    (Constraint.mk q r.message).report = r.report := by
  refine congrArg r.message.getD ?_
  cases h with
  | custom name check message h =>
    have hname : check.name = name := by simpa using List.find?_some h
    subst hname
    rfl
  | minLength x least message h =>
    show "Must be at least " ++ toString (min least lastLength) ++ " characters" =
      "Must be at least " ++ toString (min (x.ceilNat?.getD 0) lastLength) ++ " characters"
    rw [h, Option.getD_some]
  | maxLength x most message h =>
    show "Must be at most " ++ toString (min most lastLength) ++ " characters" =
      "Must be at most " ++ toString (min (x.floorNat?.getD 0) lastLength) ++ " characters"
    rw [h, Option.getD_some]
  | _ => rfl

def constraint? (k : Kind) (r : Rule) : Option Constraint :=
  ((r.requirement? checks).filter fun q => Schema.suited q k).map fun q => ⟨q, r.message⟩

/-- A rule has a constraint where it applies, and the constraint is violated where the rule is
broken. -/
theorem constraint?_cases (r : Rule) (d : Domain) (k : Kind) (hk : d.kind? = some k) (v : Json)
    (hv : d.contains v = true) :
    r.constraint? checks k = none ∧ r.applies checks d = false ∨
      ∃ c, r.constraint? checks k = some c ∧ r.applies checks d = true ∧
        c.violation v = (r.holds checks v).map fun ok => if ok then none else some r.report := by
  unfold constraint?
  cases hq : r.requirement? checks with
  | none => exact Or.inl ⟨rfl, applies_of_requirement?_none checks r hq d⟩
  | some q =>
    have hdemands := demands_of_requirement? checks r q hq
    have hsuited := suited_eq_applies checks r q hdemands d k hk
    cases happlies : r.applies checks d with
    | false => exact Or.inl ⟨by simp [hsuited, happlies], rfl⟩
    | true =>
      refine Or.inr ⟨⟨q, r.message⟩, by simp [hsuited, happlies], rfl, ?_⟩
      unfold Constraint.violation
      rw [report_eq checks r q hdemands]
      show Except.map _ (q.holds v) = _
      rw [requirement_holds checks r q hdemands d happlies v hv]

/-- The first constraint violated is that of the first rule broken. -/
theorem firstViolation_constraints (d : Domain) (k : Kind) (hk : d.kind? = some k) (v : Json)
    (hv : d.contains v = true) (rules : List Rule) :
    AtomicSchema.firstViolation v (rules.filterMap (constraint? checks k)) =
      match rules.find? (isBroken checks d v) with
      | some r => (r.holds checks v).map fun _ => some r.report
      | none => .ok none := by
  induction rules with
  | nil => rfl
  | cons r rest ih =>
    rcases constraint?_cases checks r d k hk v hv with
      ⟨hnone, happlies⟩ | ⟨c, hsome, happlies, hviolation⟩
    · rw [List.filterMap_cons_none hnone, ih]
      have hbroken : isBroken checks d v r = false := by simp [isBroken, happlies]
      rw [List.find?_cons, hbroken]
    · rw [List.filterMap_cons_some hsome]
      unfold AtomicSchema.firstViolation
      rw [hviolation, List.find?_cons]
      cases hholds : r.holds checks v with
      | error p =>
        have hbroken : isBroken checks d v r = true := by simp [isBroken, happlies, hholds]
        rw [hbroken]
        simp [Except.map, hholds]
      | ok ok =>
        have hbroken : isBroken checks d v r = !ok := by simp [isBroken, happlies, hholds]
        rw [hbroken]
        cases ok with
        | true => simpa [Except.map] using ih
        | false => simp [Except.map, hholds]

end Rule

end ModelForm
