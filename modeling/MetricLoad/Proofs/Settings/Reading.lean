import MetricLoad.Proofs.Settings.Layers
import MetricLoad.Settings.Reading
import MetricLoad.Settings.Schema

/-!
# Reading values of settings

Values of settings have no references, so a reader that is made of others succeeds exactly when
they succeed one after the other.  A record that could be read has each of its fields from the
member with the name of the field, or has its start where there is none; and so it goes down to any
depth.
-/

namespace MetricLoad.Document

variable {α β γ : Type}

/-! ## Readings without references -/

namespace Read

/-- A reading that follows no reference. -/
def IsDirect (read : Read α) : Prop :=
  ∀ n a left, read n = .ok (a, left) → left = n

theorem IsDirect.pure (a : α) : (pure a : Read α).IsDirect := by
  intro n b left h
  cases h
  rfl

theorem IsDirect.throw (fault : Fault) : (throw fault : Read α).IsDirect :=
  fun _ _ _ h => nomatch h

theorem IsDirect.orFault (fault : Fault) (o : Option α) : (orFault fault o).IsDirect := by
  cases o with
  | none => exact .throw fault
  | some a => exact .pure a

theorem bind_eq_ok_iff {read : Read α} {f : α → Read β} {n left : Nat} {b : β} :
    (read >>= f) n = .ok (b, left) ↔
      ∃ a between, read n = .ok (a, between) ∧ f a between = .ok (b, left) := by
  have happly : (read >>= f) n = (read n).bind fun r => f r.1 r.2 := rfl
  rw [happly]
  cases read n with
  | error => simp [Except.bind]
  | ok r =>
    obtain ⟨a, between⟩ := r
    simp [Except.bind]

theorem IsDirect.bind {read : Read α} {f : α → Read β} (h : read.IsDirect)
    (hf : ∀ a, (f a).IsDirect) : (read >>= f).IsDirect := by
  intro n b left hbind
  obtain ⟨a, between, hread, hrest⟩ := bind_eq_ok_iff.1 hbind
  exact (hf a _ _ _ hrest).trans (h _ _ _ hread)

theorem changing_eq_ok_iff {read : Read α} {change : Fault → Fault} {n left : Nat} {a : α} :
    read.changing change n = .ok (a, left) ↔ read n = .ok (a, left) := by
  rw [changing]
  cases read n with
  | error => exact ⟨nofun, nofun⟩
  | ok r => exact Iff.rfl

theorem IsDirect.changing {read : Read α} (h : read.IsDirect) (change : Fault → Fault) :
    (read.changing change).IsDirect :=
  fun n a left hread => h n a left (changing_eq_ok_iff.1 hread)

theorem following_eq_ok_iff {read : Read α} {n : Nat} {a : α} :
    read.following n = .ok a ↔ ∃ left, read n = .ok (a, left) := by
  rw [following]
  cases read n with
  | error => simp [Except.map]
  | ok r =>
    obtain ⟨b, left⟩ := r
    simp [Except.map]

theorem outcome_eq_ok_iff {read : Read α} {a : α} :
    read.outcome = .ok a ↔ ∃ left, read 0 = .ok (a, left) :=
  following_eq_ok_iff

theorem outcome_pure_eq_ok_iff {a b : α} : (pure a : Read α).outcome = .ok b ↔ a = b :=
  ⟨fun h => Except.ok.inj h, fun h => h ▸ rfl⟩

theorem outcome_changing_eq_ok_iff {read : Read α} {change : Fault → Fault} {a : α} :
    (read.changing change).outcome = .ok a ↔ read.outcome = .ok a := by
  simp only [outcome_eq_ok_iff, changing_eq_ok_iff]

/-- Behind a reading without references, the next one starts afresh. -/
theorem IsDirect.outcome_bind_eq_ok_iff {read : Read α} {f : α → Read β} {b : β}
    (h : read.IsDirect) :
    (read >>= f).outcome = .ok b ↔ ∃ a, read.outcome = .ok a ∧ (f a).outcome = .ok b := by
  simp only [outcome_eq_ok_iff, bind_eq_ok_iff]
  constructor
  · rintro ⟨left, a, between, hread, hrest⟩
    obtain rfl := h _ _ _ hread
    exact ⟨a, ⟨_, hread⟩, left, hrest⟩
  · rintro ⟨a, ⟨between, hread⟩, left, hrest⟩
    obtain rfl := h _ _ _ hread
    exact ⟨left, a, _, hread, hrest⟩

/-- A reading without references whose results have a property. -/
structure Yields (read : Read α) (P : α → Prop) : Prop where
  direct : read.IsDirect
  result : ∀ {a}, read.outcome = .ok a → P a

theorem Yields.pure {P : α → Prop} {a : α} (h : P a) : (Pure.pure a : Read α).Yields P :=
  ⟨.pure a, fun hread => outcome_pure_eq_ok_iff.1 hread ▸ h⟩

/-- A value that was read and put in its place. -/
theorem IsDirect.outcome_store_eq_ok_iff {read : Read α} {f : α → β} {b : β} (h : read.IsDirect) :
    (do return f (← read) : Read β).outcome = .ok b ↔ ∃ a, read.outcome = .ok a ∧ f a = b := by
  simp only [h.outcome_bind_eq_ok_iff, outcome_pure_eq_ok_iff]

theorem Yields.store {read : Read α} {f : α → β} {P : β → Prop} (direct : read.IsDirect)
    (h : ∀ a, read.outcome = .ok a → P (f a)) : (do return f (← read) : Read β).Yields P := by
  refine ⟨direct.bind fun _ => .pure _, fun hstore => ?_⟩
  obtain ⟨a, hread, rfl⟩ := direct.outcome_store_eq_ok_iff.1 hstore
  exact h a hread

end Read

/-! ## Direct readers -/

section Readers

variable (d : Setting)

theorem enter_direct : (enter d).IsDirect :=
  .pure d

theorem text_direct (expected : String) : (text expected d).IsDirect :=
  (enter_direct d).bind fun _ => .orFault _ _

theorem flag_direct : (flag d).IsDirect :=
  (enter_direct d).bind fun _ => .orFault _ _

theorem natural_direct (expected : String) (bound : Nat) : (natural expected bound d).IsDirect := by
  refine (enter_direct d).bind fun d => ?_
  split
  · exact .throw _
  · split
    · exact .pure _
    · exact .throw _

theorem size_direct : (size d).IsDirect :=
  (natural_direct d _ _).bind fun _ => .pure _

theorem word_direct : (word d).IsDirect :=
  (natural_direct d _ _).bind fun _ => .pure _

theorem single_direct : (single d).IsDirect := by
  refine (enter_direct d).bind fun d => ?_
  split
  · exact .pure _
  · exact .pure _
  · exact .pure _
  · exact .throw _

theorem duration_direct : (duration d).IsDirect :=
  (enter_direct d).bind fun d => (text_direct d _).bind fun _ => .orFault _ _

theorem choice_direct (title : String) : (choice title d).IsDirect := by
  show (Setting.choice title d).IsDirect
  unfold Setting.choice
  split
  · exact .pure _
  · exact .throw _
  · exact .pure _
  · exact .throw _

theorem variant_direct (title : String) (names : List String) :
    (variant title names d).IsDirect := by
  refine (choice_direct d title).bind fun c => ?_
  split
  · split
    · exact (Read.IsDirect.throw _).bind fun _ => .pure _
    · exact .pure _
  · split
    · exact (Read.IsDirect.throw _).bind fun _ => .throw _
    · exact .throw _

variable {read : Setting → Read α}

theorem optional_direct (h : ∀ d, (read d).IsDirect) : (optional read d).IsDirect := by
  refine Read.IsDirect.bind (.pure _) fun o => ?_
  cases o with
  | none => exact .pure _
  | some content => exact (h content).bind fun _ => .pure _

theorem readItems_direct (h : ∀ d, (read d).IsDirect) (index : Nat) (items : List Setting) :
    (readItems read index items).IsDirect := by
  induction items generalizing index with
  | nil => exact .pure _
  | cons item rest ih =>
    exact ((h item).changing _).bind fun _ => (ih _).bind fun _ => .pure _

theorem list_direct (h : ∀ d, (read d).IsDirect) : (list read d).IsDirect := by
  refine (enter_direct d).bind fun d => ?_
  split
  · exact (readItems_direct h _ _).changing _
  · exact .throw _

theorem readEntries_direct (h : ∀ d, (read d).IsDirect) (entries : List (Member Setting)) :
    (readEntries read entries).IsDirect := by
  induction entries with
  | nil => exact .pure _
  | cons entry rest ih =>
    exact (text_direct _ _).bind fun _ => ((h _).changing _).bind fun _ => ih.bind fun _ => .pure _

theorem map_direct (h : ∀ d, (read d).IsDirect) : (Document.map read d).IsDirect := by
  refine (enter_direct d).bind fun d => ?_
  split
  · exact (readEntries_direct h _).changing _
  · exact .throw _

theorem readMembers_direct {r : Record Setting β α}
    (h : ∀ draft name d, (r.step draft name d).IsDirect) (seen : List String) (draft : β)
    (members : List (Member Setting)) : (r.readMembers d seen draft members).IsDirect := by
  induction members generalizing seen draft with
  | nil => exact .pure _
  | cons member rest ih =>
    refine (text_direct _ _).bind fun name => ?_
    split
    · have hignore : (ignore member.value).IsDirect := .pure _
      exact hignore.bind fun _ => ih _ _
    · split
      · exact .throw _
      · exact ((h _ _ _).changing _).bind fun next => ih _ _

end Readers

/-! ## Fields of records -/

/-- A value that may be there gives what a reader makes of it, and else something standard. -/
def Denotes (read : Setting → Read α) (standard : α) (value : Option Setting) (a : α) : Prop :=
  match value with
  | some v => (read v).outcome = .ok a
  | none => a = standard

theorem Denotes.unique {read : Setting → Read α} {standard a b : α} {value : Option Setting}
    (ha : Denotes read standard value a) (hb : Denotes read standard value b) : a = b := by
  cases value with
  | none => exact Eq.trans ha (Eq.symm hb)
  | some v => exact Except.ok.inj (Eq.trans (Eq.symm ha) hb)

/-- A field of a record: its name, what it holds and how that is read. -/
structure RecordField (β : Type) where
  name : String
  Value : Type
  get : β → Value
  read : Setting → Read Value

/-- What reading a member means for a field: it is set by the member with its name, as long as it
has not been set, and kept by every other one. -/
def RecordField.Follows (f : RecordField β) (start draft next : β) (name : String)
    (d : Setting) : Prop :=
  if name = f.name then f.get draft = f.get start → (f.read d).outcome = .ok (f.get next)
  else f.get next = f.get draft

/-- A record has some fields, each of which is read from the member with its name alone. -/
structure Record.Has (r : Record Setting β α) (fields : List (RecordField β)) : Prop where
  known : ∀ f ∈ fields, f.name ∈ r.fields
  step : ∀ draft name d,
    (r.step draft name d).Yields fun next => ∀ f ∈ fields, f.Follows r.start draft next name d

/-- The names and the values of some members. -/
def Named (members : List (Member Setting)) (entries : List (String × Setting)) : Prop :=
  members.map (fun m => (m.name, m.value)) = entries.map fun e => (Setting.ofName e.1, e.2)

theorem Record.Has.readMembers {r : Record Setting β α} {fields : List (RecordField β)}
    (has : r.Has fields) {f : RecordField β} (hf : f ∈ fields)
    {members : List (Member Setting)} {entries : List (String × Setting)}
    (hnamed : Named members entries) {whole : Setting} {seen : List String} {draft last : β}
    (h : (r.readMembers whole seen draft members).outcome = .ok last) :
    (f.name ∈ seen → f.get last = f.get draft) ∧
      (f.name ∉ seen → f.get draft = f.get r.start →
        Denotes f.read (f.get r.start) (Setting.find? f.name entries) (f.get last)) := by
  induction members generalizing entries seen draft with
  | nil =>
    obtain rfl : entries = [] := List.map_eq_nil_iff.1 hnamed.symm
    obtain rfl := Read.outcome_pure_eq_ok_iff.1 h
    exact ⟨fun _ => rfl, fun _ hstart => hstart⟩
  | cons member rest ih =>
    obtain ⟨⟨name, value⟩, entries, rfl, hmember, hrestnamed⟩ :=
      List.map_eq_cons_iff.1 hnamed.symm
    obtain ⟨hname, rfl⟩ : member.name = Setting.ofName name ∧ member.value = value :=
      Prod.mk.inj hmember.symm
    have htext : Document.text "field identifier" member.name = pure name := by
      rw [hname]
      rfl
    rw [Record.readMembers, htext, pure_bind] at h
    rw [Setting.find?_cons]
    split_ifs at h with hunknown hseen
    · -- A member with an unknown name is passed over.
      have hignore : (ignore member.value : Read PUnit) = pure ⟨⟩ := rfl
      rw [hignore, pure_bind] at h
      have hne : name ≠ f.name := by
        rintro rfl
        simp [has.known f hf] at hunknown
      rw [if_neg hne]
      exact ih hrestnamed.symm h
    · exact nomatch h
    · obtain ⟨next, hstep, hrest⟩ :=
        ((has.step _ _ _).direct.changing _).outcome_bind_eq_ok_iff.1 h
      rw [Read.outcome_changing_eq_ok_iff] at hstep
      have hfollows := (has.step _ _ _).result hstep f hf
      obtain ⟨hkept, hread⟩ := ih hrestnamed.symm hrest
      rw [RecordField.Follows] at hfollows
      by_cases hsame : name = f.name
      · subst hsame
        refine ⟨fun hmem => absurd (List.contains_iff_mem.2 hmem) hseen, fun _ hstart => ?_⟩
        rw [if_pos rfl] at hfollows ⊢
        show (f.read member.value).outcome = .ok (f.get last)
        rw [hkept List.mem_cons_self]
        exact hfollows hstart
      · rw [if_neg hsame] at hfollows ⊢
        rw [← hfollows]
        exact ⟨fun hmem => hkept (List.mem_cons_of_mem _ hmem), fun hnew =>
          hread fun hmem => (List.mem_cons.1 hmem).elim (fun h => hsame h.symm) hnew⟩

/-- The members of a record are those with the names of its fields. -/
theorem exists_named_of_members {fields : List String} {d : Setting}
    {found : List (Member Setting)} (h : members fields d = some (.ok found)) :
    ∃ entries, Named found entries ∧
      ∀ name, d.member? fields name = Setting.find? name entries := by
  cases d with
  | scalar => exact nomatch h
  | table layer entries =>
    cases h
    exact ⟨entries, by rw [Named, List.map_map]; rfl, fun _ => rfl⟩
  | list layer items =>
    cases h
    refine ⟨fields.zip items, ?_, fun _ => rfl⟩
    refine List.ext_getElem? fun i => ?_
    rw [List.getElem?_map, List.getElem?_mapIdx, List.getElem?_map, Option.map_map]
    rfl

/-- What stands in a field of a record that could be read. -/
theorem Record.Has.read {r : Record Setting β α} {fields : List (RecordField β)}
    (has : r.Has fields) {f : RecordField β} (hf : f ∈ fields) {d : Setting} {a : α}
    (h : (r.read d).outcome = .ok a) :
    ∃ draft, r.finish draft = .ok a ∧
      Denotes f.read (f.get r.start) (d.member? r.fields f.name) (f.get draft) := by
  have henter : (enter d : Read Setting) = pure d := rfl
  rw [Record.read, henter, pure_bind] at h
  split at h
  · exact nomatch h
  · exact nomatch h
  · next found hfound =>
    obtain ⟨entries, hnamed, hmember⟩ := exists_named_of_members hfound
    have direct := readMembers_direct d fun _ _ _ => (has.step _ _ _).direct
    obtain ⟨draft, hread, hcomplete⟩ := ((direct _ _ _).changing _).outcome_bind_eq_ok_iff.1 h
    rw [Read.outcome_changing_eq_ok_iff] at hread
    refine ⟨draft, ?_, ?_⟩
    · rw [Record.complete] at hcomplete
      split at hcomplete
      · next value hvalue => rw [hvalue, Read.outcome_pure_eq_ok_iff.1 hcomplete]
      · exact nomatch hcomplete
    · rw [hmember]
      exact (has.readMembers hf hnamed hread).2 List.not_mem_nil rfl

theorem Record.Has.read_direct {r : Record Setting β α} {fields : List (RecordField β)}
    (has : r.Has fields) (d : Setting) : (r.read d).IsDirect := by
  refine (enter_direct d).bind fun d => ?_
  split
  · exact .throw _
  · exact .throw _
  · have hmembers := readMembers_direct d (fun _ _ _ => (has.step _ _ _).direct)
    refine ((hmembers _ _ _).changing _).bind fun draft => ?_
    rw [Record.complete]
    split
    · exact .pure _
    · exact .throw _

/-! ## Parts of values -/

/-- A part of a value, which is read from the end of some steps. -/
structure RecordPart (α : Type) where
  steps : List (List String × String)
  Value : Type
  get : α → Value
  read : Setting → Read Value

namespace RecordPart

/-- A reader takes a part from the end of the steps that lead to it; where these lead nowhere, the
part is that of a start. -/
def IsReadBy (p : RecordPart α) (read : Setting → Read α) (start : α) : Prop :=
  ∀ ⦃d a⦄, (read d).outcome = .ok a →
    Denotes p.read (p.get start) (d.given [] p.steps) (p.get a)

/-- A part of the field of a record, where the record has fields with some names. -/
def within (p : RecordPart γ) (names : List String) (name : String) (get : α → γ) : RecordPart α :=
  ⟨(names, name) :: p.steps, p.Value, fun a => p.get (get a), p.read⟩

end RecordPart

/-- A field as a part of a record that has fields with some names. -/
def RecordField.part (f : RecordField α) (names : List String) : RecordPart α :=
  ⟨[(names, f.name)], f.Value, f.get, f.read⟩

namespace Record.Has

variable {r : Record Setting α α} {fields : List (RecordField α)} {f : RecordField α}

/-- A part of a field is a part of the record. -/
theorem isReadBy_within (has : r.Has fields) (hf : f ∈ fields)
    (hfinish : ∀ a, r.finish a = .ok a) {p : RecordPart f.Value}
    (hp : p.IsReadBy f.read (f.get r.start)) :
    (p.within r.fields f.name f.get).IsReadBy r.read r.start := by
  intro d a h
  obtain ⟨draft, hdraft, hfield⟩ := has.read hf h
  obtain rfl := Except.ok.inj ((hfinish draft).symm.trans hdraft)
  show Denotes p.read _ ((d.member? r.fields f.name).bind (Setting.given [] p.steps)) _
  cases hmember : d.member? r.fields f.name with
  | none =>
    rw [hmember] at hfield
    exact congrArg p.get hfield
  | some v =>
    rw [hmember] at hfield
    exact hp hfield

theorem isReadBy_part (has : r.Has fields) (hf : f ∈ fields)
    (hfinish : ∀ a, r.finish a = .ok a) :
    (f.part r.fields).IsReadBy r.read r.start :=
  have hwhole : RecordPart.IsReadBy ⟨[], f.Value, fun v => v, f.read⟩ f.read (f.get r.start) :=
    fun _ _ h => h
  has.isReadBy_within hf hfinish hwhole

/-- The parts of a record that are fields of it or parts of one of its fields. -/
theorem isReadBy_of_mem (has : r.Has fields) (hfinish : ∀ a, r.finish a = .ok a)
    {leafFields : List (RecordField α)} (hleaf : leafFields ⊆ fields) (hf : f ∈ fields)
    {inner : List (RecordPart f.Value)} (hinner : ∀ p ∈ inner, p.IsReadBy f.read (f.get r.start))
    {p : RecordPart α} (hp : p ∈ leafFields.map (·.part r.fields) ++
      inner.map (·.within r.fields f.name f.get)) :
    p.IsReadBy r.read r.start := by
  rcases List.mem_append.1 hp with hp | hp
  · obtain ⟨g, hg, rfl⟩ := List.mem_map.1 hp
    exact has.isReadBy_part (hleaf hg) hfinish
  · obtain ⟨q, hq, rfl⟩ := List.mem_map.1 hp
    exact has.isReadBy_within hf hfinish (hinner q hq)

end Record.Has

theorem eq_of_present_eq_some {d content : Setting} (h : d.present = some content) :
    content = d := by
  unfold Setting.present at h
  split at h
  · exact nomatch h
  · exact (Option.some.inj h).symm

theorem given_of_present_eq_none {d : Setting} (h : d.present = none)
    {steps : List (List String × String)} (hsteps : steps ≠ []) : d.given [] steps = none := by
  unfold Setting.present at h
  split at h
  · obtain ⟨step, rest, rfl⟩ := List.exists_cons_of_ne_nil hsteps
    rfl
  · exact nomatch h

/-- A part of what may be absent, and which is absent with it. -/
theorem isReadBy_optional {read : Setting → Read α} (direct : ∀ d, (read d).IsDirect)
    {p : RecordPart (Option α)} (hsteps : p.steps ≠ [])
    (hp : ∀ {d a}, (read d).outcome = .ok a →
      Denotes p.read (p.get none) (d.given [] p.steps) (p.get (some a))) :
    p.IsReadBy (Document.optional read) none := by
  intro d a hread
  have hoption : (Document.option d : Read (Option Setting)) = pure d.present := rfl
  rw [Document.optional, hoption, pure_bind] at hread
  cases hpresent : d.present with
  | none =>
    rw [hpresent] at hread
    obtain rfl := Read.outcome_pure_eq_ok_iff.1 hread
    rw [given_of_present_eq_none hpresent hsteps]
    rfl
  | some content =>
    rw [hpresent] at hread
    obtain ⟨value, hvalue, rfl⟩ := (direct content).outcome_store_eq_ok_iff.1 hread
    exact eq_of_present_eq_some hpresent ▸ hp hvalue

/-- A value that is read is there. -/
def stated (read : Setting → Read α) (d : Setting) : Read (Option α) :=
  return some (← read d)

/-- The entry of a map with a name. -/
def entryPart (read : Setting → Read α) (name : String) : RecordPart (List (String × α)) :=
  ⟨[([], name)], Option α, fun values => values.lookup name, stated read⟩

theorem readEntries_lookup {read : Setting → Read α} (direct : ∀ d, (read d).IsDirect)
    (name : String) {entries : List (String × Setting)} {values : List (String × α)}
    (h : (readEntries read (entries.map fun (name, value) =>
      ⟨.field name, Setting.ofName name, value⟩)).outcome = .ok values) :
    Denotes (stated read) none (Setting.find? name entries) (values.lookup name) := by
  induction entries generalizing values with
  | nil =>
    obtain rfl := Read.outcome_pure_eq_ok_iff.1 h
    rfl
  | cons entry rest ih =>
    obtain ⟨key, content⟩ := entry
    have hkey : (text "a string" (Setting.ofName key) : Read String) = pure key := rfl
    rw [List.map_cons, readEntries, hkey, pure_bind] at h
    obtain ⟨value, hvalue, h⟩ := ((direct content).changing _).outcome_bind_eq_ok_iff.1 h
    obtain ⟨later, hlater, rfl⟩ :=
      (readEntries_direct direct _).outcome_store_eq_ok_iff.1 h
    rw [Read.outcome_changing_eq_ok_iff] at hvalue
    rw [Setting.find?_cons, List.lookup_cons]
    by_cases hname : key = name
    · subst hname
      rw [if_pos rfl, beq_self_eq_true]
      exact (direct content).outcome_store_eq_ok_iff.2 ⟨value, hvalue, rfl⟩
    · rw [if_neg hname, beq_false_of_ne (Ne.symm hname)]
      exact ih hlater

/-- The entries of a map are its parts. -/
theorem isReadBy_entryPart {read : Setting → Read α} (direct : ∀ d, (read d).IsDirect)
    (name : String) : (entryPart read name).IsReadBy (Document.map read) [] := by
  intro d values h
  cases d with
  | scalar => exact nomatch h
  | list => exact nomatch h
  | table layer entries =>
    have hmap : Document.map read (Setting.table layer entries) =
        inside (Setting.table layer entries) (readEntries read (entries.map fun (name, value) =>
          ⟨.field name, Setting.ofName name, value⟩)) := rfl
    rw [hmap, inside, Read.outcome_changing_eq_ok_iff] at h
    have hgiven : Setting.given [] [([], name)] (.table layer entries) =
        Setting.find? name entries := Option.bind_fun_some _
    rw [entryPart, hgiven]
    exact readEntries_lookup direct name h

end MetricLoad.Document
