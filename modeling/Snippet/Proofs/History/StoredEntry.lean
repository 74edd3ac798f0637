import Snippet.History.Entry
import Snippet.Proofs.History.TimestampText
import Snippet.Proofs.Json.CompactText

/-!
# Entries in the store

An entry that is written as JSON is read back as the same entry, and so it is from the text of this
JSON. However an entry came to the store, with its members in any order and among others, as an
array, or with a timestamp in any notation, it has one written form from then on
(`stored_entry_stable`).
-/

namespace Snippet

/-! ## Numbers -/

namespace Json

theorem isInteger_ofInt {n : Int} (above : -(Nat.pow 2 63 : Int) ≤ n)
    (below : n < (Nat.pow 2 64 : Int)) : (Number.ofInt n).isInteger = true := by
  have bounds : Nat.pow 2 63 = 9223372036854775808 ∧ Nat.pow 2 64 = 18446744073709551616 := by
    decide
  simp only [Number.isInteger, Number.ofInt, List.isEmpty_nil, Option.isNone_none, Bool.true_and,
    bounds] at above below ⊢
  by_cases negative : n < 0
  · simp only [negative, decide_true, if_true, Bool.and_eq_true]
    exact ⟨decide_eq_true (by omega), decide_eq_true (by omega)⟩
  · simp only [negative, decide_false, Bool.false_eq_true, if_false]
    exact decide_eq_true (by omega)

theorem value?_ofInt {n : Int} (above : -(Nat.pow 2 63 : Int) ≤ n)
    (below : n < (Nat.pow 2 64 : Int)) : (Number.ofInt n).value? = some (.integer n) := by
  rw [Number.value?, if_pos (isInteger_ofInt above below)]
  simp only [Number.ofInt, decide_eq_true_eq, Option.some.injEq, Quantity.integer.injEq]
  omega

theorem value?_ofInt_toInt (n : Int64) :
    (Number.ofInt n.toInt).value? = some (.integer n.toInt) :=
  value?_ofInt n.le_toInt (Int.lt_trans n.toInt_lt (by decide))

theorem asInt64_ofInt_toInt (n : Int64) : asInt64 (.number (.ofInt n.toInt)) = .ok n := by
  simp only [asInt64, value?_ofInt_toInt]
  rw [if_pos ⟨n.le_toInt, n.toInt_lt⟩, Int64.ofInt_toInt]

end Json

namespace History.Entry

open Json (Mismatch)

theorem asTimestamp_text (t : Timestamp) : asTimestamp (.string t.text) = .ok t := by
  simp only [asTimestamp, Timestamp.parse_text]

/-! ## Entries -/

/-- The members of an entry in the order of the fields, with a given number and a given time. -/
def membersWith (number time : Json) (entry : Entry) : Json.Members :=
  [("id", number), ("created_at", time), ("input_text", .string entry.inputText),
   ("output_text", .string entry.outputText), ("format_type", .string entry.formatType),
   ("user_id", .string entry.userId)]

section

variable {number time : Json} {entry : Entry}

/-- Only the number and the time may be refused. -/
theorem members_read (id : Json.asInt64 number = .ok entry.id)
    (createdAt : asTimestamp time = .ok entry.createdAt) :
    Json.checkMembers fields (membersWith number time entry) = .ok () ∧
      ofMembers (membersWith number time entry) = .ok entry := by
  constructor
  · simp [membersWith, Json.checkMembers, fields, Json.Field.of, id, createdAt, Json.asText,
      Except.map]
  · simp [membersWith, ofMembers, Json.required, Table.get?, id, createdAt, Json.asText, bind,
      Except.bind, pure, Except.pure]

theorem ofJson_object (id : Json.asInt64 number = .ok entry.id)
    (createdAt : asTimestamp time = .ok entry.createdAt) :
    ofJson (.object (membersWith number time entry)) = .ok entry := by
  obtain ⟨checked, built⟩ := members_read id createdAt
  simp only [ofJson, Json.readRecord, checked, built]

/-- In an array the values stand without the names of the fields. -/
theorem ofJson_array (id : Json.asInt64 number = .ok entry.id)
    (createdAt : asTimestamp time = .ok entry.createdAt) :
    ofJson (.array ((membersWith number time entry).map Prod.snd)) = .ok entry := by
  obtain ⟨checked, built⟩ := members_read id createdAt
  -- The names of the fields are put to the values again, place by place.
  have named : (fields.map (·.name)).zip ((membersWith number time entry).map Prod.snd) =
      membersWith number time entry := rfl
  have all : ¬ fields.length < ((membersWith number time entry).map Prod.snd).length :=
    Nat.lt_irrefl 6
  simp only [ofJson, Json.readRecord, named, checked, built, if_neg all]

end

theorem ofJson_toJson (entry : Entry) : ofJson entry.toJson = .ok entry :=
  ofJson_object (Json.asInt64_ofInt_toInt entry.id) (asTimestamp_text entry.createdAt)

theorem read_compact_toJson (entry : Entry) :
    Json.read (Json.compact entry.toJson) = .ok entry.toJson := by
  have height : entry.toJson.height = 1 := rfl
  have settled : entry.toJson.settled = entry.toJson := by rfl
  -- The only number of an entry is its id.
  have inRange : entry.toJson.InRange := by
    intro n member
    obtain rfl := List.mem_singleton.1 member
    exact ⟨by rw [Json.value?_ofInt_toInt]; rfl, by simp [Json.Number.ofInt]⟩
  have shallow : entry.toJson.height ≤ Json.depthLimit := by
    rw [height]
    decide
  cases Json.readDocument_compact shallow with
  | inl read =>
    rw [Json.read, read.2, settled]
    rfl
  | inr refused => exact absurd inRange refused.1

/-- A row that is read as an entry, in whatever form, is written in a form that is read as the same
entry, from its text as well, and that does not change when it is written again. -/
theorem stored_entry_stable {row : Json} {entry : Entry} (read : ofJson row = .ok entry) :
    (ofJson row).map toJson = .ok entry.toJson ∧ ofJson entry.toJson = .ok entry ∧
      (ofJson entry.toJson).map toJson = .ok entry.toJson ∧
      Json.read (Json.compact entry.toJson) = .ok entry.toJson := by
  have back := ofJson_toJson entry
  refine ⟨?_, back, ?_, read_compact_toJson entry⟩
  · rw [read]
    rfl
  · rw [back]
    rfl

/-- A row in the form of an array, whose leap second lies on the first of March at its place and on
the 29th of February in UTC. -/
theorem leap_second_stored :
    let row : Json := .array [.number (.ofInt (-7)), .string " 2024-3-1t0:59:60.5 +0100",
      .string "\x7b\x7d", .string "\x7b\x7d", .string "json", .string "ada"]
    let leapDay : Timestamp :=
      ⟨⟨2024, 2, 29, by decide⟩, ⟨86399, 1500000000, by decide, by decide, by decide⟩⟩
    let entry : Entry := ⟨-7, leapDay, "\x7b\x7d", "\x7b\x7d", "json", "ada"⟩
    ofJson row = .ok entry ∧ leapDay.text = "2024-02-29T23:59:60.500Z" ∧
      (ofJson row).map toJson = .ok entry.toJson ∧ ofJson entry.toJson = .ok entry ∧
      (ofJson entry.toJson).map toJson = .ok entry.toJson ∧
      Json.read (Json.compact entry.toJson) = .ok entry.toJson := by
  intro row leapDay entry
  have parsed : Timestamp.parse " 2024-3-1t0:59:60.5 +0100" = .ok leapDay := by decide +kernel
  have createdAt : asTimestamp (.string " 2024-3-1t0:59:60.5 +0100") = .ok leapDay := by
    simp only [asTimestamp, parsed]
  have read : ofJson row = .ok entry :=
    @ofJson_array _ _ entry (Json.asInt64_ofInt_toInt (-7)) createdAt
  have text : leapDay.text = "2024-02-29T23:59:60.500Z" := by decide +kernel
  exact ⟨read, text, stored_entry_stable read⟩

end History.Entry

end Snippet
