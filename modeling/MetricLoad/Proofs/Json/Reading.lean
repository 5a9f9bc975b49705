import MetricLoad.Json.Reading
import MetricLoad.Proofs.Duration.Text
import MetricLoad.Workload.Writing

/-!
# Written values are read back

A reader that meets what was written for it succeeds at once, without following a reference.  There
is a lemma for each form of value: numbers and durations, what may be absent, lists, maps from texts,
and records, which are written as objects of their fields.
-/

namespace MetricLoad.Json

open MetricLoad.Document

variable {α β : Type}

theorem read_size (n : UInt64) : Document.size (Json.size n) = pure n := by
  have hrange : (0 : Int) ≤ n.toNat ∧ (n.toNat : Int).toNat < UInt64.size :=
    ⟨Int.natCast_nonneg _, n.toNat_lt_size⟩
  have hnatural : natural "usize" UInt64.size (Json.size n) = pure n.toNat := by
    show (if (0 : Int) ≤ n.toNat ∧ (n.toNat : Int).toNat < UInt64.size then
      pure (n.toNat : Int).toNat else throw _ : Read Nat) = _
    rw [if_pos hrange, Int.toNat_natCast]
  rw [Document.size, hnatural, pure_bind, Nat.toUInt64_eq, UInt64.ofNat_toNat]

theorem read_duration (d : Duration) : Document.duration d.toJson = pure d := by
  have hread : Document.duration d.toJson =
      orFault (faultAt d.toJson (.wrongValue (.text d.text) "a duration"))
        (Duration.ofText? d.text) := rfl
  rw [hread, Duration.ofText?_text]
  rfl

/-- What may be absent is read as such, when nothing is written as `null` but its absence. -/
theorem read_orNull {read : Json → Read α} {write : α → Json}
    (hread : ∀ a, read (write a) = pure a) (hnull : ∀ a, write a ≠ .null) (o : Option α) :
    Document.optional read (Json.orNull write o) = pure o := by
  cases o with
  | none => rfl
  | some a =>
    have hoption : Document.option (write a) = (pure (some (write a)) : Read (Option Json)) := by
      cases hwritten : write a with
      | null => exact absurd hwritten (hnull a)
      | _ => rfl
    rw [orNull, Document.optional, hoption, pure_bind]
    show read (write a) >>= (fun content => pure (some content)) = _
    rw [hread, pure_bind]

/-! ## Collections -/

/-- A reading that succeeds is not changed by what would happen to its fault. -/
theorem changing_pure (change : Fault → Fault) (a : α) :
    (pure a : Read α).changing change = pure a := rfl

theorem readItems_map {read : Json → Read α} {write : α → Json}
    (hread : ∀ a, read (write a) = pure a) (index : Nat) (items : List α) :
    Document.readItems read index (items.map write) = pure items := by
  induction items generalizing index with
  | nil => rfl
  | cons a items ih =>
    rw [List.map_cons, Document.readItems, hread, changing_pure, pure_bind, ih, pure_bind]

theorem read_array {read : Json → Read α} {write : α → Json}
    (hread : ∀ a, read (write a) = pure a) (items : List α) :
    Document.list read (.array (items.map write)) = pure items := by
  show (Document.readItems read 0 (items.map write)).changing _ = pure items
  rw [readItems_map hread, changing_pure]

theorem readEntries_map {read : Json → Read α} {write : α → Json}
    (hread : ∀ a, read (write a) = pure a) (entries : List (String × α)) :
    readEntries read (entries.map fun (name, a) => ⟨.field name, .text name, write a⟩) =
      pure entries := by
  induction entries with
  | nil => rfl
  | cons entry entries ih =>
    rw [List.map_cons, readEntries, hread, changing_pure, ih]
    rfl

theorem read_entries {read : Json → Read α} {write : α → Json}
    (hread : ∀ a, read (write a) = pure a) (entries : List (String × α)) :
    Document.map read (.object (entries.map fun (name, a) => (name, write a))) = pure entries := by
  have hmembers := congrArg (Read.changing (Fault.leaving none)) (readEntries_map hread entries)
  show (readEntries read (List.map _ (List.map _ entries))).changing _ = pure entries
  rw [List.map_map]
  exact hmembers

/-! ## Records -/

/-- A step that reads one value and puts it into the draft succeeds when the value is read. -/
theorem step_eq_pure {read : Read α} {a : α} (h : read = pure a) (f : α → β) :
    (do return f (← read)) = (pure (f a) : Read β) := by
  rw [h, pure_bind]

/-- Some members take a draft to another, each through the step of its field. -/
inductive Fills (r : Record Json β α) : β → List (String × Json) → β → Prop
  | nil (draft : β) : Fills r draft [] draft
  | cons {draft next last : β} {name : String} {value : Json} {rest : List (String × Json)}
      (step : r.step draft name value = pure next) (later : Fills r next rest last) :
      Fills r draft ((name, value) :: rest) last

theorem Fills.readMembers {r : Record Json β α} {draft last : β} {members : List (String × Json)}
    (fills : Fills r draft members last) (whole : Json) {seen : List String}
    (hfields : ∀ m ∈ members, m.1 ∈ r.fields) (hseen : ∀ m ∈ members, m.1 ∉ seen)
    (hnodup : (members.map (·.1)).Nodup) :
    r.readMembers whole seen draft
      (members.map fun (name, value) => ⟨.field name, .text name, value⟩) = pure last := by
  induction fills generalizing seen with
  | nil => rfl
  | @cons draft next last name value rest step later ih =>
    obtain ⟨hfield, hfields⟩ := List.forall_mem_cons.1 hfields
    obtain ⟨hnew, hseen⟩ := List.forall_mem_cons.1 hseen
    obtain ⟨hother, hnodup⟩ := List.nodup_cons.1 hnodup
    have hunseen : ∀ m ∈ rest, m.1 ∉ name :: seen := by
      intro m hm hmem
      rcases List.mem_cons.1 hmem with heq | hmem
      · exact hother (List.mem_map.2 ⟨m, hm, heq⟩)
      · exact hseen m hm hmem
    have hknown : r.fields.contains name = true := by simpa using hfield
    have hfirst : seen.contains name = false := by simpa using hnew
    have hname : Document.text "field identifier" (Json.text name) = pure name := rfl
    rw [List.map_cons, Record.readMembers, hname, pure_bind, hknown, hfirst, step, changing_pure]
    exact ih hfields hunseen hnodup

/-- A record is read from an object of its fields. -/
theorem read_object {r : Record Json β α} {members : List (String × Json)} {last : β} {a : α}
    (hnames : members.map (·.1) = r.fields) (hnodup : r.fields.Nodup)
    (fills : Fills r r.start members last) (hfinish : r.finish last = .ok a) :
    r.read (.object members) = pure a := by
  have hfields : ∀ m ∈ members, m.1 ∈ r.fields :=
    fun m hm => hnames ▸ List.mem_map.2 ⟨m, hm, rfl⟩
  have hmembers := fills.readMembers (.object members) hfields
    (fun m _ => List.not_mem_nil) (hnames ▸ hnodup)
  have hread : r.read (.object members) =
      (r.readMembers (.object members) [] r.start
        (members.map fun (name, value) => ⟨.field name, .text name, value⟩)).changing
          (·.leaving none) >>= r.complete (.object members) := rfl
  rw [hread, hmembers, changing_pure, pure_bind, Record.complete, hfinish]

end MetricLoad.Json
