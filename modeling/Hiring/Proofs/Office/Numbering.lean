import Hiring.Proofs.Decimal.Digits
import Hiring.Storage.Store
import Mathlib.Data.List.Nodup

/-!
# Numbered identifiers

Identifiers are drawn from two counters, which go up by one and start again behind their greatest
number.  They are written in at least six digits, but two numbers never have one text, however many
digits they have; so a counter gives each identifier once before it comes round.

* `Text.padded_injective` — zeros in front do not make different numbers equal.
* `Counter`, `Counter.idOf_injective` — the counters; nor do the words before the numbers.
* `Counter.numbered` — the identifiers of numbers that follow each other; `Counter.nodup_numbered`
  says that a full round of them are all different, and `Counter.pairwise_lt_numbered` that they
  come in their order as texts for as long as six digits are enough.
* `Counted` — what a counter has issued is numbered from its first number up to its next one.
* `Books` — the books of a counter: **what was issued is in hand or stored**, each identifier once.
* `Books.draw`, `Books.store` — an identifier is issued; one that is in hand is stored.
* `Books.not_mem_stored`, `Books.fresh` — what is in hand is not stored, nor is what comes next.
-/

set_option autoImplicit false

namespace Hiring

/-! ## Texts of numbers -/

namespace Text

/-- **Padded numbers of any length are told apart.** -/
theorem padded_injective (width : Nat) : Function.Injective (padded width) := by
  intro m n h
  rw [← digitsValue_padded width m, h, digitsValue_padded]

/-- A word in front of padded numbers leaves them apart. -/
theorem append_padded_injective (word : String) (width : Nat) :
    Function.Injective fun n : UInt64 => word ++ String.ofList (padded width n.toNat) := by
  intro m n h
  have hchars := congrArg String.toList h
  simp only [String.toList_append, String.toList_ofList, List.append_cancel_left_eq] at hchars
  exact UInt64.toNat_inj.1 (padded_injective width hchars)

/-- A word in front of numbers padded to one width leaves them in order. -/
theorem append_padded_lt {word : String} {width m n : Nat} (hwidth : 0 < width) (hlt : m < n)
    (hn : n < 10 ^ width) :
    word ++ String.ofList (padded width m) < word ++ String.ofList (padded width n) := by
  rw [String.lt_iff, String.toList_append, String.toList_append, String.toList_ofList,
    String.toList_ofList]
  exact List.append_left_lt (padded_lt_padded hwidth hlt hn)

end Text

/-! ## The counters -/

/-- The counters from which identifiers are drawn. -/
inductive Counter where
  | jobs
  | applicants
deriving Repr, DecidableEq

/-- The number that a counter gives next. -/
def Store.next (s : Store) : Counter → UInt64
  | .jobs => s.nextJob
  | .applicants => s.nextApplicant

/-- The identifiers under which records are stored. -/
def Store.keys (s : Store) : Counter → List String
  | .jobs => s.jobs.keys
  | .applicants => s.applicants.keys

namespace Counter

/-- The identifier of a number. -/
def idOf : Counter → UInt64 → String
  | .jobs => Store.jobIdOf
  | .applicants => Store.applicantIdOf

theorem idOf_injective (k : Counter) : Function.Injective k.idOf := by
  cases k with
  | jobs => exact Text.append_padded_injective "job-" 6
  | applicants => exact Text.append_padded_injective "applicant-" 6

/-- As long as six digits are enough, identifiers are in the order of their numbers. -/
theorem idOf_lt_idOf (k : Counter) {m n : UInt64} (hlt : m.toNat < n.toNat)
    (hn : n.toNat < 1000000) : k.idOf m < k.idOf n := by
  cases k with
  | jobs => exact Text.append_padded_lt (by decide) hlt hn
  | applicants => exact Text.append_padded_lt (by decide) hlt hn

/-- The identifiers of `count` numbers from the first one on. -/
def numbered (k : Counter) (first : UInt64) (count : Nat) : List String :=
  (List.range count).map fun i => k.idOf (first + UInt64.ofNat i)

variable {k : Counter} {first : UInt64} {count : Nat}

theorem numbered_succ :
    k.numbered first (count + 1) =
      k.numbered first count ++ [k.idOf (first + UInt64.ofNat count)] := by
  rw [numbered, List.range_succ, List.map_append]
  rfl

/-- **In one round of a counter no identifier comes twice.** -/
theorem nodup_numbered (inRange : count ≤ 2 ^ 64) : (k.numbered first count).Nodup := by
  refine List.Nodup.map_on ?_ List.nodup_range
  intro i hi j hj h
  rw [List.mem_range] at hi hj
  have hnumber : UInt64.ofNat i = UInt64.ofNat j :=
    (UInt64.add_right_inj first).1 (k.idOf_injective h)
  have hvalue := congrArg UInt64.toNat hnumber
  rwa [UInt64.toNat_ofNat_of_lt' (Nat.lt_of_lt_of_le hi inRange),
    UInt64.toNat_ofNat_of_lt' (Nat.lt_of_lt_of_le hj inRange)] at hvalue

/-- **As long as six digits are enough, identifiers come in their order.** -/
theorem pairwise_lt_numbered (inRange : first.toNat + count ≤ 1000000) :
    (k.numbered first count).Pairwise (· < ·) := by
  have htoNat : ∀ i < count, (first + UInt64.ofNat i).toNat = first.toNat + i := by
    intro i hi
    rw [UInt64.toNat_add, UInt64.toNat_ofNat', Nat.mod_eq_of_lt (a := i) (by omega)]
    exact Nat.mod_eq_of_lt (by omega)
  refine List.pairwise_map.2 (List.Pairwise.imp_of_mem ?_ List.pairwise_lt_range)
  intro i j hi hj hlt
  rw [List.mem_range] at hi hj
  refine k.idOf_lt_idOf ?_ ?_
  · rw [htoNat i hi, htoNat j hj]
    exact Nat.add_lt_add_left hlt _
  · rw [htoNat j hj]
    omega

end Counter

/-- What a counter has issued since its first number, up to its next one. -/
structure Counted (k : Counter) (first : UInt64) (issued : List String) (next : UInt64) : Prop where
  next_eq : next = first + UInt64.ofNat issued.length
  issued_eq : issued = k.numbered first issued.length

namespace Counted

variable {k : Counter} {first next : UInt64} {issued : List String}

theorem start (k : Counter) (first : UInt64) : Counted k first [] first where
  next_eq := (UInt64.add_zero first).symm
  issued_eq := rfl

/-- The next identifier is issued. -/
theorem draw (h : Counted k first issued next) :
    Counted k first (issued ++ [k.idOf next]) (next + 1) where
  next_eq := by
    rw [List.length_append, List.length_singleton, UInt64.ofNat_add, ← UInt64.add_assoc,
      ← h.next_eq]
    rfl
  issued_eq := by
    rw [List.length_append, List.length_singleton, Counter.numbered_succ, ← h.issued_eq,
      ← h.next_eq]

end Counted

/-! ## The books of a counter -/

/-- The books of a counter: the identifiers that were issued since the first number are those that
follow each other up to the next number, and they are the ones in hand and the ones stored. -/
structure Books (k : Counter) (first : UInt64) (issued inHand stored : List String)
    (next : UInt64) : Prop where
  next_eq : next = first + UInt64.ofNat issued.length
  issued_eq : issued = k.numbered first issued.length
  balance : issued.Perm (inHand ++ stored)

namespace Books

variable {k : Counter} {first next : UInt64} {issued inHand stored : List String}

theorem counted (h : Books k first issued inHand stored next) : Counted k first issued next :=
  ⟨h.next_eq, h.issued_eq⟩

theorem start (k : Counter) (first : UInt64) : Books k first [] [] [] first where
  next_eq := (Counted.start k first).next_eq
  issued_eq := rfl
  balance := .refl _

/-- The next identifier is issued. -/
theorem draw (h : Books k first issued inHand stored next) :
    Books k first (issued ++ [k.idOf next]) (k.idOf next :: inHand) stored (next + 1) where
  next_eq := h.counted.draw.next_eq
  issued_eq := h.counted.draw.issued_eq
  balance := (List.perm_append_singleton _ _).trans (h.balance.cons _)

/-- An identifier that is in hand is stored. -/
theorem store (h : Books k first issued inHand stored next) {id : String} {rest after : List String}
    (hand : inHand.Perm (id :: rest)) (storage : after.Perm (id :: stored)) :
    Books k first issued rest after next where
  next_eq := h.next_eq
  issued_eq := h.issued_eq
  balance := by
    refine h.balance.trans ((hand.append_right stored).trans ?_)
    exact List.perm_middle.symm.trans (storage.symm.append_left rest)

/-- The order in which identifiers are in hand and stored does not matter. -/
theorem perm (h : Books k first issued inHand stored next) {hand storage : List String}
    (hhand : inHand.Perm hand) (hstorage : stored.Perm storage) :
    Books k first issued hand storage next :=
  ⟨h.next_eq, h.issued_eq, h.balance.trans (hhand.append hstorage)⟩

theorem nodup (h : Books k first issued inHand stored next) (inRange : issued.length ≤ 2 ^ 64) :
    issued.Nodup := by
  rw [h.issued_eq]
  exact Counter.nodup_numbered inRange

/-- **What is in hand is not stored.** -/
theorem not_mem_stored (h : Books k first issued inHand stored next)
    (inRange : issued.length ≤ 2 ^ 64) {id : String} (hid : id ∈ inHand) : id ∉ stored := by
  have hnodup := h.balance.nodup_iff.1 (h.nodup inRange)
  exact fun hstored => (List.nodup_append.1 hnodup).2.2 id hid id hstored rfl

/-- **What comes next is not stored**, as long as the round is not full. -/
theorem fresh (h : Books k first issued inHand stored next) (inRange : issued.length < 2 ^ 64) :
    k.idOf next ∉ stored := by
  refine h.draw.not_mem_stored ?_ (.head _)
  rw [List.length_append]
  exact inRange

end Books

end Hiring
