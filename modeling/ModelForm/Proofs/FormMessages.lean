import Mathlib.Algebra.Ring.Nat
import ModelForm.Proofs.FormPaths

/-!
The messages of a form by field. The map of messages has an entry for each key under which there
are errors, the name of the field or the empty name, and an entry has their messages in the order
of the errors. Together with what every run of a form keeps, that an error without a field has no
path at all, this is the same division of the errors that asking for one field after the other
gives.
-/

namespace ModelForm

def FieldError.heading (e : FieldError) : String := e.field?.getD ""

namespace FieldError

theorem heading_of_field? {e : FieldError} {name : String} (h : e.field? = some name) :
    e.heading = name := by rw [heading, h, Option.getD_some]

def Headed (e : FieldError) : Prop := e.path = [] ∨ ∃ name, e.field? = some name

theorem heading_eq_iff_of_ne_empty (e : FieldError) {name : String} (hname : name ≠ "") :
    e.heading = name ↔ e.field? = some name := by
  unfold heading
  cases e.field? with
  | none => simp [Ne.symm hname]
  | some n => simp

/-- An error stands under the first step of its path, one without a path under the empty name. -/
theorem Headed.heading_eq_iff {e : FieldError} (h : e.Headed) (key : String) : e.heading = key ↔
    e.path.head?.map Segment.text = some key ∨ key = "" ∧ e.path = [] := by
  rcases h with hpath | ⟨name, hname⟩
  · have hnone : e.field? = none := by simp [field?, hpath]
    simp [heading, hnone, hpath, eq_comm]
  · obtain ⟨rest, hpath⟩ := (field?_eq_some_iff e name).mp hname
    simp [heading_of_field? hname, hpath, Segment.text]

theorem Headed.heading_eq_empty_iff {e : FieldError} (h : e.Headed) :
    e.heading = "" ↔ (e.path.isEmpty || e.isFor "") = true := by
  rw [Bool.or_eq_true, List.isEmpty_iff, isFor, beq_iff_eq]
  rcases h with hpath | ⟨name, hname⟩
  · simp [heading, field?, hpath]
  · obtain ⟨rest, hpath⟩ := (field?_eq_some_iff e name).mp hname
    simp [heading_of_field? hname, hname, hpath]

end FieldError

namespace Session

/-! One more message. -/

section AddMessage

variable (key message : String) (map : List (String × List String))

theorem map_fst_addMessage :
    (addMessage key message map).map Prod.fst = insertKey key (map.map Prod.fst) := by
  induction map with
  | nil => rfl
  | cons entry rest ih =>
    obtain ⟨k, ms⟩ := entry
    simp only [addMessage, List.map_cons, insertKey]
    split_ifs with heq hlt
    · rfl
    · rfl
    · rw [List.map_cons, ih]

/-- The message is the last one of its key. -/
theorem lookup_addMessage_self (h : (map.map Prod.fst).Pairwise (· < ·)) :
    (addMessage key message map).lookup key = some ((map.lookup key).getD [] ++ [message]) := by
  induction map with
  | nil => simp [addMessage]
  | cons entry rest ih =>
    obtain ⟨k, ms⟩ := entry
    obtain ⟨hhead, hrest⟩ := List.pairwise_cons.mp h
    simp only [addMessage]
    split_ifs with heq hlt
    · subst heq
      simp
    · -- the key would stand in front of the first one, so it is not in the map
      have hnone : List.lookup key ((k, ms) :: rest) = none := by
        refine List.lookup_eq_none_iff.mpr ?_
        intro entry hentry
        have hkey : key < entry.1 := by
          rcases List.mem_cons.mp hentry with rfl | hentry
          · exact hlt
          · exact lt_trans hlt (hhead entry.1 (List.mem_map_of_mem hentry))
        simpa using ne_of_lt hkey
      rw [hnone]
      simp
    · have hbeq : (key == k) = false := beq_eq_false_iff_ne.mpr (Ne.symm heq)
      rw [List.lookup_cons, List.lookup_cons, hbeq]
      exact ih hrest

theorem lookup_addMessage_of_ne {k : String} (hk : k ≠ key) :
    (addMessage key message map).lookup k = map.lookup k := by
  have hbeq : (k == key) = false := beq_eq_false_iff_ne.mpr hk
  induction map with
  | nil => simp [addMessage, List.lookup_cons, hbeq]
  | cons entry rest ih =>
    obtain ⟨k₀, ms⟩ := entry
    simp only [addMessage]
    split_ifs with heq hlt
    · subst heq
      simp [List.lookup_cons, hbeq]
    · rw [List.lookup_cons, hbeq]
    · rw [List.lookup_cons, List.lookup_cons, ih]

/-- Nothing else changes: all messages together are those before and the new one. -/
theorem perm_addMessage :
    ((addMessage key message map).flatMap Prod.snd).Perm (map.flatMap Prod.snd ++ [message]) := by
  induction map with
  | nil => simp [addMessage]
  | cons entry rest ih =>
    obtain ⟨k, ms⟩ := entry
    simp only [addMessage]
    split_ifs with heq hlt
    · simp only [List.flatMap_cons, List.append_assoc]
      exact List.perm_append_comm.append_left ms
    · simp only [List.flatMap_cons]
      exact List.perm_append_comm
    · simp only [List.flatMap_cons, List.append_assoc]
      exact ih.append_left ms

end AddMessage

/-! All messages. -/

/-- The map has an entry for each key of the errors, with their messages in order. -/
structure Groups (map : List (String × List String)) (es : List FieldError) : Prop where
  ascending : (map.map Prod.fst).Pairwise (· < ·)
  keys : ∀ key, key ∈ map.map Prod.fst ↔ ∃ e ∈ es, e.heading = key
  lookup : ∀ key, (map.lookup key).getD [] =
    (es.filter fun e => e.heading == key).map FieldError.message
  perm : (map.flatMap Prod.snd).Perm (es.map FieldError.message)

theorem groups_nil : Groups [] [] := by
  refine ⟨List.Pairwise.nil, ?_, fun _ => rfl, List.Perm.nil⟩
  simp

theorem Groups.add {map : List (String × List String)} {es : List FieldError} (h : Groups map es)
    (e : FieldError) : Groups (addMessage e.heading e.message map) (es ++ [e]) where
  ascending := by
    rw [map_fst_addMessage]
    exact pairwise_insertKey _ _ h.ascending
  keys key := by
    rw [map_fst_addMessage, mem_insertKey, h.keys key]
    simp [or_and_right, exists_or, or_comm, eq_comm]
  lookup key := by
    rw [List.filter_append, List.map_append, ← h.lookup key]
    by_cases hkey : key = e.heading
    · subst hkey
      rw [lookup_addMessage_self _ _ _ h.ascending]
      simp
    · rw [lookup_addMessage_of_ne _ _ _ hkey]
      simp [Ne.symm hkey]
  perm := by
    rw [List.map_append, List.map_singleton]
    exact (perm_addMessage _ _ _).trans (h.perm.append_right [e.message])

theorem groups_errorMap (s : Session) : Groups s.errorMap s.errors := by
  unfold errorMap
  induction s.errors using List.reverseRecOn with
  | nil => exact groups_nil
  | append_singleton es e ih =>
    rw [List.foldl_append, List.foldl_cons, List.foldl_nil]
    exact ih.add e

section Groups

variable {map : List (String × List String)} {es : List FieldError} (h : Groups map es)
include h

/-- Each key stands once in the map, so its entry is the one that is found. -/
theorem Groups.lookup_of_mem {entry : String × List String} (hentry : entry ∈ map) :
    map.lookup entry.1 = some entry.2 := by
  obtain ⟨front, back, rfl⟩ := List.append_of_mem hentry
  refine List.lookup_eq_some_iff.mpr ⟨front, back, rfl, ?_⟩
  intro other hother
  have hsorted := List.pairwise_append.mp (List.pairwise_map.mp h.ascending)
  have hlt : other.1 < entry.1 := hsorted.2.2 other hother entry (List.mem_cons_self ..)
  simpa using (ne_of_lt hlt).symm

theorem Groups.ne_nil_of_mem {entry : String × List String} (hentry : entry ∈ map) :
    entry.2 ≠ [] := by
  obtain ⟨e, he, hkey⟩ := (h.keys entry.1).mp (List.mem_map_of_mem hentry)
  have hmessages := h.lookup entry.1
  rw [h.lookup_of_mem hentry, Option.getD_some] at hmessages
  have hmem : e ∈ es.filter fun e => e.heading == entry.1 :=
    List.mem_filter.mpr ⟨he, beq_iff_eq.mpr hkey⟩
  rw [hmessages]
  simpa using List.ne_nil_of_mem hmem

theorem Groups.lookup_eq_nil_iff (key : String) :
    (map.lookup key).getD [] = [] ↔ key ∉ map.map Prod.fst := by
  rw [h.lookup key, h.keys key]
  simp

theorem Groups.length_eq : (map.map fun entry => entry.2.length).sum = es.length := by
  have hlength := h.perm.length_eq
  rwa [List.length_flatMap, List.length_map] at hlength

end Groups

/-! The errors that a form can have. -/

def Headed (s : Session) : Prop := ∀ e ∈ s.errors, e.Headed

theorem headed_otherErrors (s : Session) (hs : s.Headed) (name : String) :
    ∀ e ∈ s.otherErrors name, e.Headed :=
  fun e he => hs e (List.mem_filter.mp he).1

theorem headed_validate (s : Session) : s.validate.2.Headed := by
  cases h : s.members.validate (.object s.data) with
  | ok out =>
    rw [validate_of_ok s out h]
    simp [Headed]
  | error failure =>
    rw [validate_of_error s failure h]
    intro e he
    rw [Members.validate_object, Verdict.toExcept_eq_error_iff] at h
    rcases h with ⟨es, hes, rfl⟩ | ⟨p, _, rfl⟩
    · exact Or.inr (Members.exists_field?_of_collect s.members s.data es hes e he)
    · obtain rfl := List.mem_singleton.mp he
      exact Or.inl rfl

theorem headed_validateField (s : Session) (hs : s.Headed) (name : String) :
    (s.validateField name).2.Headed := by
  have hothers := headed_otherErrors s hs name
  cases h : s.members.validateField name (s.data.get? name) with
  | ok w =>
    rw [validateField_of_ok s name w h]
    exact hothers
  | error failure =>
    rw [validateField_of_error s name failure h]
    intro e he
    rcases List.mem_append.mp he with he | he
    · exact hothers e he
    · exact Or.inr ⟨name, failure.isFor_of_mem_fieldErrors name s.generic e he⟩

/-- What one action keeps. -/
theorem headed_act (s : Session) (hs : s.Headed) (a : Action) : (s.act a).2.Headed := by
  cases a with
  | setField name v => exact hs
  | removeField name => exact hs
  | update edit => exact hs
  | validate => exact headed_validate s
  | validateField name => exact headed_validateField s hs name
  | reset => simp [act, reset, Headed]
  | resetField name => exact headed_otherErrors s hs name

theorem headed_runAll (s : Session) (hs : s.Headed) (actions : List Action) :
    (s.runAll actions).Headed := by
  induction actions generalizing s with
  | nil => exact hs
  | cons a rest ih => exact ih (s.act a).2 (headed_act s hs a)

/-- In every state of a form the map of messages divides the errors as asking for the fields does.
It has entries, none of them empty, for the first steps of their paths, and for the empty name if
there is an error without a path. The entry of a name is the list of messages of the errors of this
field, in their order, and the first of them is what is answered for the field; only the entry of
the empty name has the messages without a path among those of its field. All entries together have
the messages of all errors. -/
theorem errorMap_divides (ms : Members) (initial : Object) (generic : String)
    (actions : List Action) :
    let s := ({ start ms initial with generic } : Session).runAll actions
    let keys := s.errorMap.map Prod.fst
    let messages (name : String) : List String := (s.errorMap.lookup name).getD []
    keys.Pairwise (· < ·) ∧ (∀ entry ∈ s.errorMap, entry.2 ≠ []) ∧
      (∀ key, key ∈ keys ↔ (∃ e ∈ s.errors, e.path.head?.map Segment.text = some key) ∨
        key = "" ∧ ∃ e ∈ s.errors, e.path = []) ∧
      (∀ name, name ≠ "" → messages name = (s.errorsFor name).map FieldError.message ∧
        s.fieldError name = (messages name).head? ∧ (s.fieldError name = none ↔ name ∉ keys)) ∧
      messages "" =
        (s.errors.filter fun e => e.path.isEmpty || e.isFor "").map FieldError.message ∧
      (s.errorMap.map fun entry => entry.2.length).sum = s.errors.length ∧
      (s.errorMap.flatMap Prod.snd).Perm (s.errors.map FieldError.message) := by
  intro s keys messages
  have hgroups : Groups s.errorMap s.errors := groups_errorMap s
  have hheaded : s.Headed := headed_runAll _ (by simp [Headed, start]) actions
  refine ⟨hgroups.ascending, fun entry => hgroups.ne_nil_of_mem, ?_, ?_, ?_, hgroups.length_eq,
    hgroups.perm⟩
  · intro key
    have hkey : ∀ e ∈ s.errors, (e.heading = key ↔
        e.path.head?.map Segment.text = some key ∨ key = "" ∧ e.path = []) :=
      fun e he => (hheaded e he).heading_eq_iff key
    rw [hgroups.keys key]
    constructor
    · rintro ⟨e, he, heading⟩
      rcases (hkey e he).mp heading with hstep | ⟨hempty, hpath⟩
      · exact Or.inl ⟨e, he, hstep⟩
      · exact Or.inr ⟨hempty, e, he, hpath⟩
    · rintro (⟨e, he, hstep⟩ | ⟨hempty, e, he, hpath⟩)
      · exact ⟨e, he, (hkey e he).mpr (Or.inl hstep)⟩
      · exact ⟨e, he, (hkey e he).mpr (Or.inr ⟨hempty, hpath⟩)⟩
  · intro name hname
    have hsame : ∀ e : FieldError, (e.heading == name) = e.isFor name := by
      intro e
      rw [Bool.eq_iff_iff, FieldError.isFor, beq_iff_eq, beq_iff_eq]
      exact e.heading_eq_iff_of_ne_empty hname
    have hmessages : messages name = (s.errorsFor name).map FieldError.message := by
      simp only [messages, hgroups.lookup name, hsame, errorsFor]
    have hfirst : s.fieldError name = (messages name).head? := by
      rw [hmessages, List.head?_map, errorsFor, List.head?_filter, fieldError]
    refine ⟨hmessages, hfirst, ?_⟩
    rw [hfirst, List.head?_eq_none_iff]
    exact hgroups.lookup_eq_nil_iff name
  · have hempty : ∀ e ∈ s.errors,
        (e.heading == "") = (e.path.isEmpty || e.isFor "") := by
      intro e he
      rw [Bool.eq_iff_iff, beq_iff_eq]
      exact (hheaded e he).heading_eq_empty_iff
    simp only [messages, hgroups.lookup "", List.filter_congr hempty]

/-- A form that has a field of the empty name, and a pattern that cannot be used: the generic error
and that of the field share an entry, and the errors of the size come one after the other. -/
theorem errorMap_divides_parcel :
    let code : Schema := (Schema.string none).require (.pattern (Pattern.ofText "[")) none
    let ms : Members := [("code", code), ("", .number none),
      ("size", .record [("height", .number none), ("width", .string none)])]
    let actions : List Action := [.setField "size" (.object [("width", .null)]), .validate,
      .validateField "size", .validateField ""]
    let s := (start ms [("code", .string "x")]).runAll actions
    s.errorMap = [("", [genericMessage, requiredMessage]),
        ("size", [requiredMessage, "Expected a string"])] ∧
      "size" ≠ "" ∧ s.fieldError "size" = some requiredMessage ∧
      (s.errorMap.map fun entry => entry.2.length).sum = s.errors.length := by
  intro code ms actions s
  have hmap : s.errorMap = [("", [genericMessage, requiredMessage]),
      ("size", [requiredMessage, "Expected a string"])] := rfl
  have hsize : "size" ≠ "" := by decide
  obtain ⟨-, -, -, hnames, -, htotal, -⟩ :=
    errorMap_divides ms [("code", .string "x")] genericMessage actions
  have hfirst : s.fieldError "size" = ((s.errorMap.lookup "size").getD []).head? :=
    (hnames "size" hsize).2.1
  rw [hmap] at hfirst
  exact ⟨hmap, hsize, hfirst, htotal⟩

end Session

end ModelForm
