import AgentFabric.Foundation.Lists

namespace AgentFabric
open Sorting

/-- The parts of an entry that a hash chain checks. -/
structure HashChain (Entry Hash : Type*) where
  sequence : Entry → Int
  previous : Entry → Hash
  stored : Entry → Hash
  digest : Entry → Hash

namespace HashChain

variable {Entry Hash : Type*} [DecidableEq Hash] (chain : HashChain Entry Hash)

/-- The check walks the entries with the last hash and the next number. -/
def validFrom (hash : Hash) (number : Int) : List Entry → Bool
  | [] => true
  | entry :: rest =>
      chain.sequence entry = number && chain.previous entry = hash &&
        chain.stored entry = chain.digest entry &&
        validFrom (chain.stored entry) (number + 1) rest

omit [DecidableEq Hash] in
/-- The hash of the last entry or the start value. -/
def lastHash (start : Hash) (entries : List Entry) : Hash :=
  (entries.getLast?.map chain.stored).getD start

omit [DecidableEq Hash] in
theorem lastHash_cons (start : Hash) (entry : Entry) (rest : List Entry) :
    chain.lastHash start (entry :: rest) = chain.lastHash (chain.stored entry) rest := by
  unfold lastHash
  rw [List.getLast?_cons]
  cases rest.getLast? with
  | none => rfl
  | some last => rfl

/-- A chain stays valid exactly when the new entry continues it. -/
theorem validFrom_concat (hash : Hash) (number : Int) (entries : List Entry) (entry : Entry) :
    chain.validFrom hash number (entries ++ [entry]) = true ↔
      chain.validFrom hash number entries = true ∧ chain.sequence entry = number + entries.length ∧
        chain.previous entry = chain.lastHash hash entries ∧
        chain.stored entry = chain.digest entry := by
  induction entries generalizing hash number with
  | nil => simp [validFrom, lastHash, and_assoc]
  | cons head rest ih =>
      have count : number + 1 + (rest.length : Int) = number + ((head :: rest).length : Nat) := by
        rw [List.length_cons]
        omega
      simp only [List.cons_append, validFrom, Bool.and_eq_true, ih, lastHash_cons, and_assoc, count]

/-- A valid chain numbers its entries without a gap. -/
theorem sequences_of_validFrom (hash : Hash) (number : Int) (entries : List Entry)
    (valid : chain.validFrom hash number entries = true) :
    entries.map chain.sequence =
      (List.range entries.length).map fun index : Nat => number + (index : Int) := by
  induction entries generalizing hash number with
  | nil => rfl
  | cons head rest ih =>
      simp only [validFrom, Bool.and_eq_true, decide_eq_true_eq] at valid
      rw [List.map_cons, valid.1.1.1, ih _ _ valid.2, List.length_cons, List.range_succ_eq_map,
        List.map_cons, List.map_map]
      congr 1
      · omega
      · apply List.map_congr_left
        intro index _
        simp only [Function.comp_apply, Nat.succ_eq_add_one]
        omega

/-- The numbers of a valid chain increase strictly. -/
theorem sequences_increase (hash : Hash) (number : Int) (entries : List Entry)
    (valid : chain.validFrom hash number entries = true) :
    (entries.map chain.sequence).Pairwise (· < ·) := by
  rw [sequences_of_validFrom chain hash number entries valid, List.pairwise_map]
  exact List.pairwise_lt_range.imp fun less => by omega

/-- A valid chain is already in the order of its numbers. -/
theorem sortedBy_of_validFrom (hash : Hash) (number : Int) (entries : List Entry)
    (valid : chain.validFrom hash number entries = true) :
    sortedBy chain.sequence entries = entries := by
  apply sortedBy_of_pairwise
  have increase := chain.sequences_increase hash number entries valid
  rw [List.pairwise_map] at increase
  exact increase.imp le_of_lt

section TamperEvidence

variable {Content : Type*} (content : Entry → Content)

/-- Two valid chains of one length with one last hash hold the same contents.
The digest binds the content, and the content binds the link to the entry before. -/
theorem contents_eq_of_lastHash (hash : Hash) (number : Int)
    (binds : ∀ first second, chain.digest first = chain.digest second →
      content first = content second)
    (links : ∀ first second, content first = content second →
      chain.previous first = chain.previous second)
    (first second : List Entry) (lengths : first.length = second.length)
    (firstValid : chain.validFrom hash number first = true)
    (secondValid : chain.validFrom hash number second = true)
    (last : chain.lastHash hash first = chain.lastHash hash second) :
    first.map content = second.map content := by
  induction first using List.reverseRecOn generalizing second with
  | nil => rw [List.length_eq_zero_iff.mp lengths.symm]
  | append_singleton front entry ih =>
      rcases List.eq_nil_or_concat second with rfl | ⟨others, other, rfl⟩
      · simp at lengths
      · rw [List.concat_eq_append] at lengths secondValid last ⊢
        rw [validFrom_concat] at firstValid secondValid
        obtain ⟨frontValid, _, firstLink, firstStored⟩ := firstValid
        obtain ⟨othersValid, _, secondLink, secondStored⟩ := secondValid
        have stored : chain.stored entry = chain.stored other := by simpa [lastHash] using last
        have contents : content entry = content other :=
          binds entry other (by rw [← firstStored, ← secondStored, stored])
        have before : chain.lastHash hash front = chain.lastHash hash others := by
          rw [← firstLink, ← secondLink, links entry other contents]
        have shorter : front.length = others.length := by simpa using lengths
        rw [List.map_append, List.map_append, List.map_singleton, List.map_singleton, contents,
          ih others shorter frontValid othersValid before]

/-- Two valid chains with one last entry's hash hold the same contents.
The content also binds the number of an entry and so the length of its chain. -/
theorem contents_eq_of_last (hash : Hash) (number : Int)
    (binds : ∀ first second, chain.digest first = chain.digest second →
      content first = content second)
    (links : ∀ first second, content first = content second →
      chain.previous first = chain.previous second)
    (numbers : ∀ first second, content first = content second →
      chain.sequence first = chain.sequence second)
    (first second : List Entry)
    (firstValid : chain.validFrom hash number first = true)
    (secondValid : chain.validFrom hash number second = true)
    (last : first.getLast?.map chain.stored = second.getLast?.map chain.stored) :
    first.map content = second.map content := by
  have hashes : chain.lastHash hash first = chain.lastHash hash second := by
    rw [lastHash, lastHash, last]
  apply chain.contents_eq_of_lastHash content hash number binds links first second ?_ firstValid
    secondValid hashes
  rcases List.eq_nil_or_concat first with rfl | ⟨front, entry, rfl⟩
  · rcases List.eq_nil_or_concat second with rfl | ⟨others, other, rfl⟩
    · rfl
    · simp at last
  · rcases List.eq_nil_or_concat second with rfl | ⟨others, other, rfl⟩
    · simp at last
    · rw [List.concat_eq_append] at firstValid secondValid last ⊢
      rw [validFrom_concat] at firstValid secondValid
      rw [List.concat_eq_append, List.getLast?_concat, List.getLast?_concat, Option.map_some,
        Option.map_some, Option.some.injEq] at last
      obtain ⟨_, firstNumber, _, firstStored⟩ := firstValid
      obtain ⟨_, secondNumber, _, secondStored⟩ := secondValid
      have contents : content entry = content other :=
        binds entry other (by rw [← firstStored, ← secondStored, last])
      have same := numbers entry other contents
      rw [firstNumber, secondNumber] at same
      rw [List.concat_eq_append, List.length_append, List.length_append]
      have lengths : front.length = others.length := by omega
      rw [lengths]
      rfl

end TamperEvidence

variable {Other : Type*} (other : HashChain Other Hash)

/-- A map that keeps the checked parts keeps the verdict. -/
theorem validFrom_map (f : Entry → Other) (hash : Hash) (number : Int) (entries : List Entry)
    (sequence : ∀ entry, other.sequence (f entry) = chain.sequence entry)
    (previous : ∀ entry, other.previous (f entry) = chain.previous entry)
    (stored : ∀ entry, other.stored (f entry) = chain.stored entry)
    (digest : ∀ entry, other.digest (f entry) = chain.digest entry) :
    other.validFrom hash number (entries.map f) = chain.validFrom hash number entries := by
  induction entries generalizing hash number with
  | nil => rfl
  | cons head rest ih =>
      simp only [List.map_cons, validFrom, sequence, previous, stored, digest, ih]

end HashChain

/-- The parts of an entry that a linked log checks against the hash before it. -/
structure LinkChain (Entry Hash : Type*) where
  stored : Entry → Hash
  linked : Hash → Entry → Bool
  digest : Hash → Entry → Hash

namespace LinkChain

variable {Entry Hash : Type*} (chain : LinkChain Entry Hash)

/-- The hash of the last entry or the start value. -/
def lastHash (start : Hash) (entries : List Entry) : Hash :=
  (entries.getLast?.map chain.stored).getD start

theorem lastHash_cons (start : Hash) (entry : Entry) (rest : List Entry) :
    chain.lastHash start (entry :: rest) = chain.lastHash (chain.stored entry) rest := by
  unfold lastHash
  rw [List.getLast?_cons]
  cases rest.getLast? with
  | none => rfl
  | some last => rfl

variable [DecidableEq Hash]

/-- The check walks the entries with the last stored hash. -/
def verifyFrom (hash : Hash) : List Entry → Bool
  | [] => true
  | entry :: rest =>
      chain.digest hash entry = chain.stored entry && chain.linked hash entry &&
        verifyFrom (chain.stored entry) rest

/-- A log stays valid exactly when the new entry follows the last one. -/
theorem verifyFrom_concat (hash : Hash) (entries : List Entry) (entry : Entry) :
    chain.verifyFrom hash (entries ++ [entry]) = true ↔
      chain.verifyFrom hash entries = true ∧
        chain.digest (chain.lastHash hash entries) entry = chain.stored entry ∧
        chain.linked (chain.lastHash hash entries) entry = true := by
  induction entries generalizing hash with
  | nil => simp [verifyFrom, lastHash]
  | cons head rest ih =>
      simp only [List.cons_append, verifyFrom, Bool.and_eq_true, ih, lastHash_cons, and_assoc]

end LinkChain

end AgentFabric
