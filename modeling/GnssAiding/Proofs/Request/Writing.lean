/-
A query is written as a dry run announces.

Without a buffer the length of the query in UTF-8 is told. A buffer that has one byte more, or
still more, takes the query and the closing zero and keeps the rest (`Filled`); a smaller one is
refused with the length that would do, and is left alone. What is refused for its token is
refused before the buffer is looked at (`compose_writes`).
-/
import GnssAiding.Request.Offline
import GnssAiding.Request.Online

namespace GnssAiding

namespace Query

/-- The text and a zero stand at the front of what was there before. -/
structure Filled (text before after : Bytes) : Prop where
  length : after.length = before.length
  front : after.take text.length = text
  closed : after[text.length]? = some 0
  kept : after.drop (text.length + 1) = before.drop (text.length + 1)

/-- What comes of writing the query of a token, with a buffer and without one. -/
structure Writes (token : String) (query : Except Error String) : Prop where
  accepted : ambiguous token = false → ∃ q, query = .ok q ∧
    writeResult query none = (.ok q.utf8ByteSize, none) ∧
    ∀ b, (q.utf8ByteSize < b.length → ∃ after, Filled (utf8 q) b after ∧
        writeResult query (some b) = (.ok q.utf8ByteSize, some after)) ∧
      (b.length ≤ q.utf8ByteSize →
        writeResult query (some b) = (.error (.bufferTooSmall (q.utf8ByteSize + 1)), some b))
  refused : ambiguous token = true → query = .error (.invalidArgument .token) ∧
    ∀ buffer, writeResult query buffer = (.error (.invalidArgument .token), buffer)

theorem filled_overwrite {text before : Bytes} (h : text.length < before.length) :
    Filled text before (Bytes.overwrite 0 (text ++ [0]) before) := by
  have hafter : Bytes.overwrite 0 (text ++ [0]) before =
      text ++ 0 :: before.drop (text.length + 1) := by
    simp [Bytes.overwrite]
  rw [hafter]
  constructor
  case length =>
    rw [List.length_append, List.length_cons, List.length_drop]
    omega
  case front => exact List.take_left
  case closed =>
    rw [List.getElem?_append_right (Nat.le_refl _), Nat.sub_self]
    rfl
  case kept => simp

theorem write_of_lt {q : String} {b : Bytes} (h : q.utf8ByteSize < b.length) :
    write q (some b) = (.ok q.utf8ByteSize, some (Bytes.overwrite 0 (utf8 q ++ [0]) b)) :=
  if_neg (Nat.not_lt.2 h)

theorem write_of_le {q : String} {b : Bytes} (h : b.length ≤ q.utf8ByteSize) :
    write q (some b) = (.error (.bufferTooSmall (q.utf8ByteSize + 1)), some b) :=
  if_pos (Nat.lt_succ_of_le h)

/-- Whatever is joined to a token, its query is written as announced. -/
theorem compose_writes (token : String) (parameters : List String) :
    Writes token (compose token parameters) := by
  constructor
  case accepted =>
    intro ht
    have hq : compose token parameters = _ := if_neg (Bool.eq_false_iff.1 ht)
    rw [hq]
    exact ⟨_, rfl, rfl, fun b =>
      ⟨fun hfits => ⟨_, filled_overwrite hfits, write_of_lt hfits⟩, write_of_le⟩⟩
  case refused =>
    intro ht
    have hq : compose token parameters = _ := if_pos ht
    rw [hq]
    exact ⟨rfl, fun _ => rfl⟩

end Query

/-- **What a dry run tells holds of every buffer.** For every request to either service: if its
token is accepted, there is a query, whose length in bytes is told without a buffer; every
longer buffer is filled with it, and every other one is refused with the length that is needed.
If its token is not accepted, neither making the query nor writing it gets further than saying
so, and no buffer changes. -/
theorem queries_written :
    (∀ r : OnlineRequest, Query.Writes r.token r.query) ∧
      ∀ r : OfflineRequest, Query.Writes r.token r.query :=
  ⟨fun _ => Query.compose_writes _ _, fun _ => Query.compose_writes _ _⟩

/-- A letter of two bytes counts as two. -/
example :
    Query.write "token=é" (some (List.replicate 10 0xFF)) =
      (.ok 8, some [116, 111, 107, 101, 110, 61, 195, 169, 0, 0xFF]) := by
  rfl

end GnssAiding
