/-
Records read back from the wire.

Whatever the order of its members, an entitlement or a reservation is read back from its text as it
was, but for its status, which is read from its own text (`Entitlement.decode_object`,
`Reservation.decode_object`).  A status that was read before is its own normal form, so that nothing
changes however often a record is handed on, and with it the answer of the access check
(`stored_statuses_survive`).

What is asked of a record is that its counts are signed 64-bit numbers and that its times can be
named; a decoder gives no others (`Entitlement.sound_of_decode`).
-/
import Turnstile.Proofs.Wire.Fields

namespace Turnstile.Wire

open Json (treeOf)

/-- A status is read back from its own text. -/
theorem decodeStatus_encodeStatus (s : Status) :
    decodeStatus (treeOf (encodeStatus s)) = some (.parse s.text) := rfl

theorem exact_orNull (t : Option Timestamp) : Json.Exact (.orNull encodeTime t) := by
  cases t with
  | none => exact .null
  | some u => exact .string _

/-- A status that was read in a field was read from a text. -/
theorem exists_raw_of_required {f : Fields} {i : Nat} {s : Status}
    (h : f.required i decodeStatus = some s) : ∃ raw, s = .parse raw := by
  obtain ⟨t, -, ht⟩ := Option.bind_eq_some_iff.mp h
  obtain ⟨raw, -, rfl⟩ := Option.map_eq_some_iff.mp ht
  exact ⟨raw, rfl⟩

/-! ### Entitlements -/

namespace Entitlement

/-- Counts are signed 64-bit numbers and times can be named. -/
structure Sound (e : Entitlement) : Prop where
  ratePerMinute : Signed64.Holds e.limits.ratePerMinute
  monthlyUnits : Signed64.Holds e.limits.monthlyUnits
  periodStart : e.periodStart.Nameable
  periodEnd : e.periodEnd.Nameable
  graceUntil : ∀ t ∈ e.graceUntil, t.Nameable
  updatedAt : e.updatedAt.Nameable

/-- The members of an entitlement's object. -/
def members (e : Entitlement) : List (String × Json) :=
  [("tenant_id", .string e.tenant), ("plan_code", .string e.plan),
    ("subscription_status", encodeStatus e.status),
    ("rate_per_minute", .whole e.limits.ratePerMinute),
    ("monthly_units", .whole e.limits.monthlyUnits),
    ("usage_period_start", encodeTime e.periodStart),
    ("usage_period_end", encodeTime e.periodEnd),
    ("grace_until", .orNull encodeTime e.graceUntil), ("updated_at", encodeTime e.updatedAt)]

theorem nodup_names : names.Nodup := by decide

theorem nodup_members (e : Entitlement) : (e.members.map (·.1)).Nodup := nodup_names

theorem exact_members (e : Entitlement) : ∀ m ∈ e.members, Json.Exact m.2 := by
  simp only [members, List.forall_mem_cons]
  exact ⟨.string _, .string _, .string _, .whole _, .whole _, .string _, .string _,
    exact_orNull e.graceUntil, .string _, fun _ h => nomatch h⟩

/-- An entitlement is read back as it was, with the status that its status' text names. -/
theorem decode_object {e : Entitlement} (h : e.Sound) {ms : List (String × Json)}
    (hms : Json.Lists ms e.encode) :
    decode (treeOf (.object ms)) = some { e with status := .parse e.status.text } := by
  obtain ⟨f, hf, hfound⟩ := Fields.exists_found nodup_names e.nodup_members hms
  refine Option.bind_eq_some_iff.mpr ⟨f, hf, ?_⟩
  refine hfound.bind_required 0 rfl (by simp [members]) (Decoder.text_string e.tenant) ?_
  refine hfound.bind_required 1 rfl (by simp [members]) (Decoder.text_string e.plan) ?_
  refine hfound.bind_required 2 rfl (by simp [members]) (decodeStatus_encodeStatus e.status) ?_
  refine hfound.bind_required 3 rfl (by simp [members]) (Decoder.count_whole h.ratePerMinute) ?_
  refine hfound.bind_required 4 rfl (by simp [members]) (Decoder.count_whole h.monthlyUnits) ?_
  refine hfound.bind_required 5 rfl (by simp [members])
    (Decoder.timestamp_encodeTime h.periodStart) ?_
  refine hfound.bind_required 6 rfl (by simp [members])
    (Decoder.timestamp_encodeTime h.periodEnd) ?_
  refine hfound.bind_optional 7 rfl (by simp [members]) (Decoder.nullable_orNull h.graceUntil) ?_
  refine hfound.bind_required 8 rfl (by simp [members])
    (Decoder.timestamp_encodeTime h.updatedAt) ?_
  rfl

theorem parse?_object {e : Entitlement} (h : e.Sound) {ms : List (String × Json)}
    (hms : Json.Lists ms e.encode) :
    decode.parse? (Json.object ms).compact = some { e with status := .parse e.status.text } := by
  rw [Decoder.parse?, (hms.exact e.nodup_members e.exact_members).parse?_compact]
  exact decode_object h hms

/-- Only sound entitlements are read, with statuses that were read. -/
theorem sound_of_decode {t : Json.Tree} {e : Entitlement} (h : decode t = some e) :
    e.Sound ∧ ∃ raw, e.status = .parse raw := by
  obtain ⟨f, -, h⟩ := Option.bind_eq_some_iff.mp h
  obtain ⟨tenant, -, h⟩ := Option.bind_eq_some_iff.mp h
  obtain ⟨plan, -, h⟩ := Option.bind_eq_some_iff.mp h
  obtain ⟨status, hstatus, h⟩ := Option.bind_eq_some_iff.mp h
  obtain ⟨rate, hrate, h⟩ := Option.bind_eq_some_iff.mp h
  obtain ⟨units, hunits, h⟩ := Option.bind_eq_some_iff.mp h
  obtain ⟨start, hstart, h⟩ := Option.bind_eq_some_iff.mp h
  obtain ⟨stop, hstop, h⟩ := Option.bind_eq_some_iff.mp h
  obtain ⟨grace, hgrace, h⟩ := Option.bind_eq_some_iff.mp h
  obtain ⟨updated, hupdated, h⟩ := Option.bind_eq_some_iff.mp h
  cases h
  exact ⟨⟨Fields.holds_of_required hrate, Fields.holds_of_required hunits,
    Fields.nameable_of_required hstart, Fields.nameable_of_required hstop,
    Fields.nameable_of_optional hgrace, Fields.nameable_of_required hupdated⟩,
    exists_raw_of_required hstatus⟩

end Entitlement

/-! ### Reservations -/

namespace Reservation

/-- Counts are signed 64-bit numbers and times can be named. -/
structure Sound (r : Reservation) : Prop where
  periodStart : r.periodStart.Nameable
  periodEnd : r.periodEnd.Nameable
  quantity : Signed64.Holds r.quantity
  monthlyUnits : Signed64.Holds r.monthlyUnits
  usedAfter : Signed64.Holds r.usedAfter

/-- The names of the fields, in order. -/
def names : List String :=
  ["tenant_id", "meter", "period_start", "period_end", "quantity", "monthly_units", "used_after",
    "subscription"]

theorem nodup_names : names.Nodup := by decide

theorem nodup_members (r : Reservation) : (r.members.map (·.1)).Nodup := nodup_names

theorem exact_members (r : Reservation) : ∀ m ∈ r.members, Json.Exact m.2 := by
  simp only [members, List.forall_mem_cons]
  exact ⟨.string _, .string _, .string _, .string _, .whole _, .whole _, .whole _, .string _,
    fun _ h => nomatch h⟩

/-- A reservation is read back as it was, with the status that its status' text names. -/
theorem decode_object {r : Reservation} (h : r.Sound) {ms : List (String × Json)}
    (hms : Json.Lists ms r.encode) :
    decode (treeOf (.object ms)) = some { r with status := .parse r.status.text } := by
  obtain ⟨f, hf, hfound⟩ := Fields.exists_found nodup_names r.nodup_members hms
  refine Option.bind_eq_some_iff.mpr ⟨f, hf, ?_⟩
  refine hfound.bind_required 0 rfl (by simp [members]) (Decoder.text_string r.tenant) ?_
  refine hfound.bind_required 1 rfl (by simp [members]) (Decoder.text_string r.meter) ?_
  refine hfound.bind_required 2 rfl (by simp [members])
    (Decoder.timestamp_encodeTime h.periodStart) ?_
  refine hfound.bind_required 3 rfl (by simp [members])
    (Decoder.timestamp_encodeTime h.periodEnd) ?_
  refine hfound.bind_required 4 rfl (by simp [members]) (Decoder.count_whole h.quantity) ?_
  refine hfound.bind_required 5 rfl (by simp [members]) (Decoder.count_whole h.monthlyUnits) ?_
  refine hfound.bind_required 6 rfl (by simp [members]) (Decoder.count_whole h.usedAfter) ?_
  refine hfound.bind_required 7 rfl (by simp [members]) (decodeStatus_encodeStatus r.status) ?_
  rfl

theorem parse?_object {r : Reservation} (h : r.Sound) {ms : List (String × Json)}
    (hms : Json.Lists ms r.encode) :
    decode.parse? (Json.object ms).compact = some { r with status := .parse r.status.text } := by
  rw [Decoder.parse?, (hms.exact r.nodup_members r.exact_members).parse?_compact]
  exact decode_object h hms

/-- Only sound reservations are read, with statuses that were read. -/
theorem sound_of_decode {t : Json.Tree} {r : Reservation} (h : decode t = some r) :
    r.Sound ∧ ∃ raw, r.status = .parse raw := by
  obtain ⟨f, -, h⟩ := Option.bind_eq_some_iff.mp h
  obtain ⟨tenant, -, h⟩ := Option.bind_eq_some_iff.mp h
  obtain ⟨meter, -, h⟩ := Option.bind_eq_some_iff.mp h
  obtain ⟨start, hstart, h⟩ := Option.bind_eq_some_iff.mp h
  obtain ⟨stop, hstop, h⟩ := Option.bind_eq_some_iff.mp h
  obtain ⟨quantity, hquantity, h⟩ := Option.bind_eq_some_iff.mp h
  obtain ⟨units, hunits, h⟩ := Option.bind_eq_some_iff.mp h
  obtain ⟨used, hused, h⟩ := Option.bind_eq_some_iff.mp h
  obtain ⟨status, hstatus, h⟩ := Option.bind_eq_some_iff.mp h
  cases h
  exact ⟨⟨Fields.nameable_of_required hstart, Fields.nameable_of_required hstop,
    Fields.holds_of_required hquantity, Fields.holds_of_required hunits,
    Fields.holds_of_required hused⟩, exists_raw_of_required hstatus⟩

end Reservation

/-! ### From hand to hand -/

/-- An entitlement whose status was read is read back as it is. -/
theorem Entitlement.parse?_object_of_read {e : Entitlement} (h : e.Sound) {raw : String}
    (hstatus : e.status = .parse raw) {ms : List (String × Json)} (hms : Json.Lists ms e.encode) :
    decode.parse? (Json.object ms).compact = some e := by
  rw [parse?_object h hms, hstatus, Status.parse_text_parse, ← hstatus]

theorem Reservation.parse?_object_of_read {r : Reservation} (h : r.Sound) {raw : String}
    (hstatus : r.status = .parse raw) {ms : List (String × Json)} (hms : Json.Lists ms r.encode) :
    decode.parse? (Json.object ms).compact = some r := by
  rw [parse?_object h hms, hstatus, Status.parse_text_parse, ← hstatus]

/-- **Stored statuses survive the wire.**  A status that was read is read back from its own text.
So an entitlement or a reservation with such a status, in whatever order its members are written, is
read back as it was, and the access check gives the same answer at every instant.  What was read
from any text has such a status, so that it is read back from its own text too. -/
theorem stored_statuses_survive :
    (∀ raw, Status.parse (Status.parse raw).text = Status.parse raw) ∧
      (∀ (e : Entitlement) raw, e.Sound → e.status = .parse raw → ∀ ms, Json.Lists ms e.encode →
        ∃ e', Entitlement.decode.parse? (Json.object ms).compact = some e' ∧ e' = e ∧
          ∀ now, e'.toLedger.checkAccess now = e.toLedger.checkAccess now) ∧
      (∀ (r : Reservation) raw, r.Sound → r.status = .parse raw → ∀ ms, Json.Lists ms r.encode →
        Reservation.decode.parse? (Json.object ms).compact = some r) ∧
      (∀ s e, Entitlement.decode.parse? s = some e →
        Entitlement.decode.parse? e.encode.compact = some e) ∧
      ∀ s r, Reservation.decode.parse? s = some r →
        Reservation.decode.parse? r.encode.compact = some r := by
  refine ⟨Status.parse_text_parse, ?_, ?_, ?_, ?_⟩
  · intro e raw hsound hstatus ms hms
    exact ⟨e, e.parse?_object_of_read hsound hstatus hms, rfl, fun now => rfl⟩
  · intro r raw hsound hstatus ms hms
    exact r.parse?_object_of_read hsound hstatus hms
  · intro s e h
    obtain ⟨t, -, ht⟩ := Option.bind_eq_some_iff.mp h
    obtain ⟨hsound, raw, hstatus⟩ := Entitlement.sound_of_decode ht
    exact e.parse?_object_of_read hsound hstatus (Json.lists_sortMembers e.nodup_members)
  · intro s r h
    obtain ⟨t, -, ht⟩ := Option.bind_eq_some_iff.mp h
    obtain ⟨hsound, raw, hstatus⟩ := Reservation.sound_of_decode ht
    exact r.parse?_object_of_read hsound hstatus (Json.lists_sortMembers r.nodup_members)

/-- An entitlement with a status that billing spells its own way, and grace up to a leap second. -/
def overdue : Entitlement where
  tenant := "acme"
  plan := "pro"
  status := .parse " Past_Due\n"
  limits := ⟨60, 1000⟩
  periodStart := .ofInstant ⟨0⟩
  periodEnd := .ofInstant ⟨2678400000000000⟩
  graceUntil := some ⟨⟨1483228800500000000⟩, true⟩
  updatedAt := .ofInstant ⟨1500⟩

/-- A reservation of the same tenant under a status that nobody knows. -/
def pending : Reservation where
  tenant := "acme"
  meter := "calls \"v2\""
  periodStart := .ofInstant ⟨0⟩
  periodEnd := .ofInstant ⟨2678400000000000⟩
  quantity := 3
  monthlyUnits := 1000
  usedAfter := -7
  status := .parse "INCOMPLETE "

theorem sound_overdue : overdue.Sound where
  ratePerMinute := by decide
  monthlyUnits := by decide
  periodStart := Timestamp.nameable_ofInstant (by decide)
  periodEnd := Timestamp.nameable_ofInstant (by decide)
  graceUntil := by
    rintro t ⟨⟩
    exact ⟨by decide, fun _ => by decide⟩
  updatedAt := Timestamp.nameable_ofInstant (by decide)

theorem sound_pending : pending.Sound where
  periodStart := Timestamp.nameable_ofInstant (by decide)
  periodEnd := Timestamp.nameable_ofInstant (by decide)
  quantity := by decide
  monthlyUnits := by decide
  usedAfter := by decide

/-- Both are read back from their members in the order of their fields, and read once more. -/
theorem stored_statuses_survive_overdue :
    overdue.status = .pastDue ∧ pending.status = .unknown "incomplete" ∧
      (∃ e, Entitlement.decode.parse? (Json.object overdue.members).compact = some e ∧
        e = overdue ∧ e.toLedger.checkAccess ⟨0⟩ = overdue.toLedger.checkAccess ⟨0⟩) ∧
      Reservation.decode.parse? (Json.object pending.members).compact = some pending ∧
      Entitlement.decode.parse? overdue.encode.compact = some overdue ∧
      Reservation.decode.parse? pending.encode.compact = some pending := by
  obtain ⟨-, hentitlement, hreservation, hagain, hagain'⟩ := stored_statuses_survive
  obtain ⟨_, he, rfl, haccess⟩ := hentitlement overdue " Past_Due\n" sound_overdue rfl
    overdue.members ⟨overdue.nodup_members, rfl⟩
  have hr := hreservation pending "INCOMPLETE " sound_pending rfl pending.members
    ⟨pending.nodup_members, rfl⟩
  exact ⟨by decide, by decide, ⟨overdue, he, rfl, haccess ⟨0⟩⟩, hr, hagain _ overdue he,
    hagain' _ pending hr⟩

end Turnstile.Wire
