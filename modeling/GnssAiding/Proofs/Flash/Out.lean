/-
A block on its way, which is one step of every transfer that sends blocks one
after the other. `Block.Out` says that the block at an index is out and those
behind it have not been sent; sending it again and going on to the next one keep
it. `Block.left` counts how often the block may still be overdue before it is
given up.
-/
import GnssAiding.Flash.Block
import GnssAiding.Transfer.Turn

namespace GnssAiding.Flash.Block

/-! ## What becomes of a block -/

/-- The block when it has just been sent. -/
def outAt (c : Context) (b : Block) : Block :=
  { b with state := .waitingForAck, deadline := c.now + c.settings.timeout }

/-- The block when the receiver has just been nudged about it. -/
def nudgedAt (c : Context) (b : Block) : Block :=
  { b with state := .waitingForSecondChance, deadline := c.now + c.settings.timeout }

/-- The block about to be sent once more. -/
def again (b : Block) : Block := { b with retries := b.retries + 1 }

/-- The block when nothing more will happen to it. -/
def ended (state : Progress) (b : Block) : Block := { b with state := state }

theorem awaiting_outAt (c : Context) (b : Block) : (b.outAt c).awaiting = true := rfl

theorem awaiting_nudgedAt (c : Context) (b : Block) : (b.nudgedAt c).awaiting = true := rfl

theorem awaiting_iff {b : Block} :
    b.awaiting = true ↔ b.state = .waitingForAck ∨ b.state = .waitingForSecondChance := by
  simp [awaiting]

/-! ## The block that is out -/

/-- The block at `i` is `b` and out, sent again at most `limit` times, and those
behind it have not been sent. -/
structure Out (limit : Nat) (blocks : List Block) (i : Nat) (b : Block) : Prop where
  current : blocks[i]? = some b
  awaiting : b.awaiting = true
  retries : b.retries ≤ limit
  ahead : ∀ (j : Nat) (b : Block), i < j → blocks[j]? = some b → b.retries = 0

namespace Out

variable {limit : Nat} {blocks : List Block} {i : Nat} {b : Block}

/-- The block at `i`, which has not been sent, is sent. -/
theorem start {b' : Block} (hb : blocks[i]? = some b) (ha : b'.awaiting = true)
    (hr : b'.retries = b.retries) (hfresh : ∀ b ∈ blocks, b.retries = 0) :
    Out limit (blocks.set i b') i b' where
  current := List.getElem?_set_self (List.getElem?_eq_some_iff.1 hb).1
  awaiting := ha
  retries := by
    rw [hr, hfresh b (List.mem_of_getElem? hb)]
    exact Nat.zero_le _
  ahead := by
    intro j b hj hb
    rw [List.getElem?_set_ne (Nat.ne_of_lt hj)] at hb
    exact hfresh b (List.mem_of_getElem? hb)

variable (h : Out limit blocks i b)

include h

theorem lt : i < blocks.length := (List.getElem?_eq_some_iff.1 h.current).1

/-- The block is replaced and still out. -/
theorem put {b' : Block} (ha : b'.awaiting = true) (hr : b'.retries ≤ limit) :
    Out limit (blocks.set i b') i b' where
  current := List.getElem?_set_self h.lt
  awaiting := ha
  retries := hr
  ahead := by
    intro j b hj hb
    rw [List.getElem?_set_ne (Nat.ne_of_lt hj)] at hb
    exact h.ahead j b hj hb

/-- The block is done and the next one is out. -/
theorem advance {next next' : Block} (done : Block) (hn : blocks[i + 1]? = some next)
    (ha : next'.awaiting = true) (hr : next'.retries = next.retries) :
    Out limit ((blocks.set i done).set (i + 1) next') (i + 1) next' where
  current := by
    refine List.getElem?_set_self ?_
    rw [List.length_set]
    exact (List.getElem?_eq_some_iff.1 hn).1
  awaiting := ha
  retries := by
    rw [hr, h.ahead _ next (Nat.lt_succ_self _) hn]
    exact Nat.zero_le _
  ahead := by
    intro j b hj hb
    rw [List.getElem?_set_ne (by omega), List.getElem?_set_ne (by omega)] at hb
    exact h.ahead j b (by omega) hb

end Out

/-! ## How often it may still be overdue -/

/-- How often the block may be overdue: twice for each time it is sent, and
once if the receiver has been nudged. -/
def left (limit : Nat) (b : Block) : Nat :=
  2 * (limit - b.retries) + if b.state = .waitingForAck then 2 else 1

theorem left_pos (limit : Nat) (b : Block) : 0 < b.left limit := by
  unfold left
  split <;> omega

theorem left_le (limit : Nat) (b : Block) : b.left limit ≤ 2 * (limit + 1) := by
  unfold left
  split <;> omega

theorem left_nudgedAt_lt (limit : Nat) (c : Context) {b : Block} (hs : b.state = .waitingForAck) :
    (b.nudgedAt c).left limit < b.left limit := by
  simp [left, nudgedAt, hs]

theorem left_again_lt {limit : Nat} (c : Context) {b : Block}
    (hs : b.state = .waitingForSecondChance) (hr : b.retries < limit) :
    (b.again.outAt c).left limit < b.left limit := by
  simp only [left, outAt, again, hs, if_true, reduceCtorEq, if_false]
  omega

end GnssAiding.Flash.Block
