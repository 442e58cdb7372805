import Backtracking.Cache
import Backtracking.Search.Sequence
import Mathlib.Data.List.DropRight
import Mathlib.Data.List.Dedup

/-!
# What a cache keeps

Whatever was done with a cache, its keys are the patterns that were asked for last, as many as there
is room for, in the order in which they were asked for.  A pattern that is kept gives the regular
expression that it gave before, and no other pattern gives that one.

What a cache gives is what the pattern compiles to, under the limits that the cache was given last.
-/

namespace Backtracking

/-! ## The last distinct members of a list -/

section Recent

variable {α : Type} [DecidableEq α]

/-- The members of a list that come last, as many as there is room for, each at its last place. -/
def recent (room : Nat) (members : List α) : List α :=
  members.dedup.rtake (min room members.dedup.length)

/-- The distinct members of a list are those that are not recent and those that are. -/
theorem exists_append_recent (room : Nat) (members : List α) :
    ∃ front, members.dedup = front ++ recent room members ∧
      front.length = members.dedup.length - room := by
  refine ⟨members.dedup.take (members.dedup.length - room), ?_, by simp⟩
  have skipped : members.dedup.length - min room members.dedup.length =
      members.dedup.length - room := by omega
  rw [recent, List.rtake, skipped, List.take_append_drop]

theorem recent_eq_drop (room : Nat) {members front back : List α}
    (split : members.dedup = front ++ back) (skips : front.length = members.dedup.length - room) :
    recent room members = back := by
  have skipped : members.dedup.length - min room members.dedup.length = front.length := by omega
  rw [recent, List.rtake, skipped, split, List.drop_left]

theorem recent_nodup (room : Nat) (members : List α) : (recent room members).Nodup := by
  obtain ⟨front, split, -⟩ := exists_append_recent room members
  have distinct : (front ++ recent room members).Nodup := split ▸ members.nodup_dedup
  exact distinct.of_append_right

theorem length_recent_le (room : Nat) (members : List α) : (recent room members).length ≤ room := by
  rw [recent, List.rtake, List.length_drop]
  omega

variable [BEq α] [LawfulBEq α]

theorem dedup_concat (members : List α) (last : α) :
    (members ++ [last]).dedup = members.dedup.filter (· != last) ++ [last] := by
  induction members with
  | nil => rfl
  | cons first members ih =>
      by_cases later : first ∈ members
      · rw [List.cons_append, List.dedup_cons_of_mem (by simp [later]), ih,
          List.dedup_cons_of_mem later]
      by_cases same : first = last
      · subst same
        rw [List.cons_append, List.dedup_cons_of_mem (by simp), ih,
          List.dedup_cons_of_notMem later]
        simp
      · rw [List.cons_append, List.dedup_cons_of_notMem (by simp [later, same]), ih,
          List.dedup_cons_of_notMem later]
        simp [same]

theorem recent_concat_of_mem {room : Nat} {members : List α} {last : α}
    (kept : last ∈ recent room members) :
    recent room (members ++ [last]) = (recent room members).filter (· != last) ++ [last] := by
  obtain ⟨front, split, skips⟩ := exists_append_recent room members
  have distinct : (front ++ recent room members).Nodup := split ▸ members.nodup_dedup
  have others : front.filter (· != last) = front := by
    refine List.filter_eq_self.mpr fun member early => bne_iff_ne.mpr ?_
    rintro rfl
    exact List.disjoint_of_nodup_append distinct early kept
  have shorter : ((recent room members).filter (· != last)).length + 1 =
      (recent room members).length := by
    rw [← distinct.of_append_right.erase_eq_filter]
    exact List.length_erase_add_one kept
  have whole : (members ++ [last]).dedup =
      front ++ ((recent room members).filter (· != last) ++ [last]) := by
    rw [dedup_concat, split, List.filter_append, others, List.append_assoc]
  apply recent_eq_drop room whole
  rw [split, List.length_append] at skips
  rw [whole]
  simp only [List.length_append, List.length_singleton]
  omega

theorem recent_concat_of_notMem {room : Nat} {members : List α} {last : α}
    (dropped : last ∉ recent room members) :
    recent room (members ++ [last]) = (recent room members ++ [last]).rtake room := by
  obtain ⟨front, split, skips⟩ := exists_append_recent room members
  have stays : (recent room members).filter (· != last) = recent room members := by
    refine List.filter_eq_self.mpr fun member inside => bne_iff_ne.mpr ?_
    rintro rfl
    exact dropped inside
  have whole : (members ++ [last]).dedup =
      front.filter (· != last) ++ (recent room members ++ [last]) := by
    rw [dedup_concat, split, List.filter_append, stays, List.append_assoc]
  have fewer : (front.filter (· != last)).length ≤ front.length := List.length_filter_le ..
  rw [split, List.length_append] at skips
  obtain ⟨begins, all, length⟩ := exists_append_recent room (members ++ [last])
  -- What is cut off from the new list contains what was cut off from the old one.
  have cut : begins.length = (front.filter (· != last)).length +
      ((recent room members ++ [last]).length - room) := by
    rw [length, whole]
    simp only [List.length_append, List.length_singleton]
    omega
  have dropped_eq := congrArg (List.drop begins.length) (all.symm.trans whole)
  rw [List.drop_left, cut, List.drop_append, List.drop_eq_nil_of_le (by omega), List.nil_append]
    at dropped_eq
  rw [dropped_eq, List.rtake]
  congr 1
  omega

end Recent

namespace Cache

/-- What may be done with a cache: a pattern is asked for, the cache is emptied, or it gets other
limits, which empties it too. -/
inductive Operation where
  | get (text : List Char)
  | clear
  | withLimits (limits : Limits)
deriving DecidableEq

def Operation.empties : Operation → Bool
  | .get _ => false
  | .clear | .withLimits _ => true

/-- The pattern that is asked for, if it is one that is not refused. -/
def Operation.accepted? : Operation → Option (List Char)
  | .get text => if (Regexp.parse text).isOk then some text else none
  | .clear | .withLimits _ => none

def Operation.limits? : Operation → Option Limits
  | .withLimits limits => some limits
  | .get _ | .clear => none

def perform (cache : Cache) : Operation → Cache
  | .get text => (cache.get text).2
  | .clear => cache.clear
  | .withLimits limits => cache.withLimits limits

/-- The cache behind some operations on a new one. -/
def behind (capacity : Nat) (history : List Operation) : Cache :=
  history.foldl perform (ofCapacity capacity)

/-- The patterns that were got since the cache was emptied last, as often as they were asked for. -/
def gotTexts (history : List Operation) : List (List Char) :=
  (history.rtakeWhile (!·.empties)).filterMap Operation.accepted?

/-- The limits that were given last, or those by default. -/
def latestLimits (history : List Operation) : Limits :=
  (history.filterMap Operation.limits?).getLast?.getD {}

theorem behind_concat (capacity : Nat) (history : List Operation) (operation : Operation) :
    behind capacity (history ++ [operation]) = (behind capacity history).perform operation := by
  simp [behind]

/-! ## One operation -/

section Get

variable (cache : Cache) (text : List Char)

theorem find?_eq_none_iff : cache.find? text = none ↔ text ∉ cache.keys := by
  rw [find?, List.lookup_eq_none_iff]
  simp only [keys, List.mem_map, bne_iff_ne, not_exists, not_and]
  exact forall₂_congr fun entry member => ne_comm

theorem mem_entries_of_find? {cached : CachedRegexp} (found : cache.find? text = some cached) :
    (text, cached) ∈ cache.entries := by
  obtain ⟨front, back, split, -⟩ := List.lookup_eq_some_iff.mp found
  simp [split]

/-- What asking for a pattern does: it has an entry, which becomes the latest one; or it is refused,
and nothing changes; or it is compiled and becomes an entry. -/
theorem get_cases :
    (∃ cached, cache.find? text = some cached ∧
      cache.get text = (.ok cached, cache.refresh text cached)) ∨
    text ∉ cache.keys ∧
      ((∃ error, Regexp.parse text = .error error ∧ cache.get text = (.error error, cache)) ∨
      ∃ regexp cached, Regexp.parse text = .ok regexp ∧
        cached = ⟨cache.compiled, { regexp with limits := cache.limits }⟩ ∧
        cache.get text =
          (.ok cached, { cache with compiled := cache.compiled + 1 }.insert text cached)) := by
  cases known : cache.find? text with
  | some cached => exact .inl ⟨cached, rfl, by rw [get, known]⟩
  | none =>
      refine .inr ⟨(cache.find?_eq_none_iff text).mp known, ?_⟩
      cases parses : Regexp.parse text with
      | error error => exact .inl ⟨error, rfl, by rw [get, known, parses]⟩
      | ok regexp => exact .inr ⟨regexp, _, rfl, rfl, by rw [get, known, parses]⟩

theorem get_of_refused {error : CompileError} (refused : (cache.get text).1 = .error error) :
    (cache.get text).2 = cache := by
  obtain ⟨found, -, gives⟩ | ⟨-, ⟨error, -, gives⟩ | ⟨regexp, made, -, -, gives⟩⟩ :=
    cache.get_cases text
  · rw [gives] at refused
    cases refused
  · rw [gives]
  · rw [gives] at refused
    cases refused

theorem exists_entry_of_mem_keys (member : text ∈ cache.keys) :
    ∃ cached, (text, cached) ∈ cache.entries ∧
      cache.get text = (.ok cached, cache.refresh text cached) := by
  obtain ⟨cached, found, gives⟩ | ⟨absent, -⟩ := cache.get_cases text
  · exact ⟨cached, cache.mem_entries_of_find? text found, gives⟩
  · exact absurd member absent

theorem keys_refresh (cached : CachedRegexp) :
    (cache.refresh text cached).keys = cache.keys.filter (· != text) ++ [text] := by
  simp [refresh, keys, List.filter_map, Function.comp_def]

theorem keys_insert (cached : CachedRegexp) (fits : cache.size ≤ cache.capacity) :
    (cache.insert text cached).keys = (cache.keys ++ [text]).rtake cache.capacity := by
  unfold insert
  split
  · next none =>
      have empty : cache.entries = [] := List.eq_nil_of_length_eq_zero (by rw [size] at fits; omega)
      simp [keys, empty, none]
  · next some =>
      rw [List.rtake, List.length_append, List.length_singleton, List.drop_append_of_le_length]
      · simp [keys, size]
      · simp [keys]
        omega

variable {cache text}

theorem mem_refresh {other : List Char} {cached entry : CachedRegexp}
    (member : (other, entry) ∈ (cache.refresh text cached).entries) :
    other ≠ text ∧ (other, entry) ∈ cache.entries ∨ other = text ∧ entry = cached := by
  simp only [refresh, List.mem_append, List.mem_filter, List.mem_singleton, bne_iff_ne,
    Prod.mk.injEq] at member
  exact member.imp_left And.symm

theorem mem_insert {other : List Char} {cached entry : CachedRegexp}
    (member : (other, entry) ∈ (cache.insert text cached).entries) :
    (other, entry) ∈ cache.entries ∨ other = text ∧ entry = cached := by
  unfold insert at member
  split at member
  · exact .inl member
  · simp only [List.mem_append, List.mem_singleton, Prod.mk.injEq] at member
    exact member.imp_left List.mem_of_mem_drop

theorem compiled_insert (cached : CachedRegexp) :
    (cache.insert text cached).compiled = cache.compiled := by
  unfold insert
  split <;> rfl

theorem limits_insert (cached : CachedRegexp) :
    (cache.insert text cached).limits = cache.limits := by
  unfold insert
  split <;> rfl

theorem capacity_insert (cached : CachedRegexp) :
    (cache.insert text cached).capacity = cache.capacity := by
  unfold insert
  split <;> rfl

end Get

/-! ## All operations -/

theorem gotTexts_get (history : List Operation) (text : List Char) :
    gotTexts (history ++ [.get text]) =
      gotTexts history ++ (Operation.accepted? (.get text)).toList := by
  rw [gotTexts, List.rtakeWhile_concat_pos _ _ _ rfl, List.filterMap_append]
  cases accepted : Operation.accepted? (.get text) <;> simp [gotTexts, accepted]

theorem gotTexts_of_empties (history : List Operation) {operation : Operation}
    (empties : operation.empties = true) : gotTexts (history ++ [operation]) = [] := by
  rw [gotTexts, List.rtakeWhile_concat_neg _ _ _ (by simp [empties])]
  rfl

theorem latestLimits_get (history : List Operation) (text : List Char) :
    latestLimits (history ++ [.get text]) = latestLimits history := by
  simp [latestLimits, Operation.limits?]

/-- A cache reflects what was done with it: which patterns it keeps, in which order, and what it has
made of them. -/
structure Reflects (capacity : Nat) (history : List Operation) (cache : Cache) : Prop where
  capacity_eq : cache.capacity = capacity
  limits_eq : cache.limits = latestLimits history
  keys_eq : cache.keys = recent capacity (gotTexts history)
  serial_lt : ∀ text cached, (text, cached) ∈ cache.entries → cached.serial < cache.compiled
  compiles : ∀ text cached, (text, cached) ∈ cache.entries →
    ∃ regexp, Regexp.parse text = .ok regexp ∧
      cached.regexp = { regexp with limits := cache.limits }

namespace Reflects

variable {capacity : Nat} {history : List Operation} {cache : Cache}

theorem size_le (reflects : Reflects capacity history cache) : cache.size ≤ cache.capacity := by
  have length : cache.keys.length = cache.size := List.length_map ..
  rw [← length, reflects.keys_eq, reflects.capacity_eq]
  exact length_recent_le ..

theorem emptied {operation : Operation} (empties : operation.empties = true)
    {next : Cache} (none : next.entries = [])
    (sameCapacity : next.capacity = capacity)
    (limits : next.limits = latestLimits (history ++ [operation])) :
    Reflects capacity (history ++ [operation]) next where
  capacity_eq := sameCapacity
  limits_eq := limits
  keys_eq := by simp [keys, none, gotTexts_of_empties _ empties, recent]
  serial_lt := by simp [none]
  compiles := by simp [none]

/-- The entry of a pattern that is asked for again becomes the latest one. -/
theorem refreshed (reflects : Reflects capacity history cache) {text : List Char}
    {cached : CachedRegexp} (member : (text, cached) ∈ cache.entries) :
    Reflects capacity (history ++ [.get text]) (cache.refresh text cached) := by
  obtain ⟨regexp, accepted, compiled⟩ := reflects.compiles text cached member
  have known : text ∈ recent capacity (gotTexts history) := by
    rw [← reflects.keys_eq]
    exact List.mem_map_of_mem member
  refine ⟨reflects.capacity_eq, reflects.limits_eq.trans (latestLimits_get ..).symm, ?_, ?_, ?_⟩
  · rw [keys_refresh, reflects.keys_eq, gotTexts_get, Operation.accepted?, accepted]
    exact (recent_concat_of_mem known).symm
  · intro other entry inside
    obtain ⟨-, earlier⟩ | ⟨rfl, rfl⟩ := mem_refresh inside
    · exact reflects.serial_lt other entry earlier
    · exact reflects.serial_lt _ _ member
  · intro other entry inside
    obtain ⟨-, earlier⟩ | ⟨rfl, rfl⟩ := mem_refresh inside
    · exact reflects.compiles other entry earlier
    · exact ⟨regexp, accepted, compiled⟩

/-- A pattern without an entry gets one, and the earliest entries make room for it. -/
theorem inserted (reflects : Reflects capacity history cache) {text : List Char}
    (absent : text ∉ cache.keys) {regexp : Regexp} (accepted : Regexp.parse text = .ok regexp) :
    Reflects capacity (history ++ [.get text])
      ({ cache with compiled := cache.compiled + 1 }.insert text
        ⟨cache.compiled, { regexp with limits := cache.limits }⟩) := by
  have unknown : text ∉ recent capacity (gotTexts history) := by
    rwa [← reflects.keys_eq]
  refine ⟨?_, ?_, ?_, ?_, ?_⟩
  · exact (capacity_insert _).trans reflects.capacity_eq
  · exact (limits_insert _).trans (reflects.limits_eq.trans (latestLimits_get ..).symm)
  · have kept := keys_insert { cache with compiled := cache.compiled + 1 } text
      ⟨cache.compiled, { regexp with limits := cache.limits }⟩ reflects.size_le
    rw [gotTexts_get, Operation.accepted?, accepted]
    refine kept.trans (Eq.trans ?_ (recent_concat_of_notMem unknown).symm)
    rw [← reflects.keys_eq, ← reflects.capacity_eq]
    rfl
  · intro other entry inside
    rw [compiled_insert]
    obtain earlier | ⟨rfl, rfl⟩ := mem_insert inside
    · exact Nat.lt_succ_of_lt (reflects.serial_lt other entry earlier)
    · exact Nat.lt_succ_self _
  · intro other entry inside
    rw [limits_insert]
    obtain earlier | ⟨rfl, rfl⟩ := mem_insert inside
    · exact reflects.compiles other entry earlier
    · exact ⟨regexp, accepted, rfl⟩

theorem get (reflects : Reflects capacity history cache) (text : List Char) :
    Reflects capacity (history ++ [.get text]) (cache.get text).2 := by
  obtain ⟨cached, found, gives⟩ | ⟨absent, ⟨error, refused, gives⟩ |
    ⟨regexp, cached, accepted, rfl, gives⟩⟩ := cache.get_cases text
  · rw [gives]
    exact reflects.refreshed (cache.mem_entries_of_find? text found)
  · rw [gives]
    refine { reflects with
      limits_eq := reflects.limits_eq.trans (latestLimits_get ..).symm, keys_eq := ?_ }
    rw [reflects.keys_eq, gotTexts_get, Operation.accepted?, refused]
    exact congrArg _ (List.append_nil _).symm
  · rw [gives]
    exact reflects.inserted absent accepted

/-- A pattern is got from a cache exactly if it is not refused without one. -/
theorem got_iff (reflects : Reflects capacity history cache) (text : List Char) :
    (∃ cached, (cache.get text).1 = .ok cached) ↔ (Regexp.parse text).isOk = true := by
  obtain ⟨cached, found, gives⟩ | ⟨-, ⟨error, parses, gives⟩ |
    ⟨regexp, cached, parses, -, gives⟩⟩ := cache.get_cases text
  · obtain ⟨regexp, parses, -⟩ :=
      reflects.compiles text cached (cache.mem_entries_of_find? text found)
    simp [gives, parses, Except.isOk, Except.toBool]
  · simp [gives, parses, Except.isOk, Except.toBool]
  · simp [gives, parses, Except.isOk, Except.toBool]

theorem perform (reflects : Reflects capacity history cache) (operation : Operation) :
    Reflects capacity (history ++ [operation]) (cache.perform operation) := by
  cases operation with
  | get text => exact reflects.get text
  | clear =>
      refine emptied rfl rfl reflects.capacity_eq (reflects.limits_eq.trans ?_)
      simp [latestLimits, Operation.limits?]
  | withLimits limits =>
      refine emptied rfl rfl reflects.capacity_eq ?_
      simp [latestLimits, Operation.limits?, Cache.perform, withLimits]

end Reflects

theorem behind_reflects (capacity : Nat) (history : List Operation) :
    Reflects capacity history (behind capacity history) := by
  induction history using List.reverseRecOn with
  | nil => constructor <;> simp [behind, ofCapacity, latestLimits, keys, gotTexts, recent]
  | append_singleton history operation ih =>
      rw [behind_concat]
      exact ih.perform operation

/-! ## The objects that are kept -/

section Objects

variable {cache : Cache} {text : List Char} {cached : CachedRegexp}

/-- An entry comes from the time when its pattern was asked for last. -/
theorem mem_of_mem_perform {operation : Operation} (other : operation ≠ .get text)
    (member : (text, cached) ∈ (cache.perform operation).entries) :
    (text, cached) ∈ cache.entries := by
  cases operation with
  | get asked =>
      have different : text ≠ asked := fun same => other (same ▸ rfl)
      rw [perform] at member
      obtain ⟨found, -, gives⟩ | ⟨-, ⟨error, -, gives⟩ | ⟨regexp, made, -, -, gives⟩⟩ :=
        cache.get_cases asked
      · rw [gives] at member
        obtain ⟨-, earlier⟩ | ⟨same, -⟩ := mem_refresh member
        · exact earlier
        · exact absurd same different
      · rwa [gives] at member
      · rw [gives] at member
        obtain earlier | ⟨same, -⟩ := mem_insert member
        · exact earlier
        · exact absurd same different
  | clear => exact absurd member List.not_mem_nil
  | withLimits limits => exact absurd member List.not_mem_nil

theorem get_eq_of_mem (member : (text, cached) ∈ (cache.get text).2.entries) :
    (cache.get text).1 = .ok cached := by
  obtain ⟨found, -, gives⟩ | ⟨absent, ⟨error, -, gives⟩ | ⟨regexp, made, -, -, gives⟩⟩ :=
    cache.get_cases text
  · rw [gives] at member ⊢
    obtain ⟨other, -⟩ | ⟨-, rfl⟩ := mem_refresh member
    · exact absurd rfl other
    · rfl
  · rw [gives] at member
    exact absurd (List.mem_map_of_mem member) absent
  · rw [gives] at member ⊢
    obtain earlier | ⟨-, rfl⟩ := mem_insert member
    · exact absurd (List.mem_map_of_mem earlier) absent
    · rfl

/-- What is kept for a pattern was given when the pattern was asked for last. -/
theorem get_eq_of_mem_behind (capacity : Nat) {earlier later : List Operation}
    (latest : .get text ∉ later)
    (member : (text, cached) ∈ (behind capacity (earlier ++ .get text :: later)).entries) :
    ((behind capacity earlier).get text).1 = .ok cached := by
  induction later using List.reverseRecOn with
  | nil =>
      rw [behind_concat] at member
      exact get_eq_of_mem member
  | append_singleton later operation ih =>
      rw [← List.cons_append, ← List.append_assoc, behind_concat] at member
      simp only [List.mem_append, List.mem_singleton, not_or] at latest
      exact ih latest.1 (mem_of_mem_perform (Ne.symm latest.2) member)

theorem compiled_le_perform (cache : Cache) (operation : Operation) :
    cache.compiled ≤ (cache.perform operation).compiled := by
  cases operation with
  | get text =>
      rw [perform]
      obtain ⟨found, -, gives⟩ | ⟨-, ⟨error, -, gives⟩ | ⟨regexp, made, -, -, gives⟩⟩ :=
        cache.get_cases text
      · rw [gives]
        exact Nat.le_refl _
      · rw [gives]
      · rw [gives, compiled_insert]
        exact Nat.le_succ _
  | clear => exact Nat.le_refl _
  | withLimits limits => exact Nat.le_refl _

/-- Whatever was given was compiled before. -/
theorem serial_lt_of_get {capacity : Nat} {history : List Operation}
    (reflects : Reflects capacity history cache) (given : (cache.get text).1 = .ok cached) :
    cached.serial < (cache.get text).2.compiled := by
  obtain ⟨found, stored, gives⟩ | ⟨-, ⟨error, -, gives⟩ | ⟨regexp, made, -, made_eq, gives⟩⟩ :=
    cache.get_cases text
  · rw [gives] at given ⊢
    cases given
    exact reflects.serial_lt text cached (cache.mem_entries_of_find? text stored)
  · rw [gives] at given
    cases given
  · rw [gives] at given ⊢
    cases given
    rw [compiled_insert, made_eq]
    exact Nat.lt_succ_self _

/-- What is given for a pattern that is not kept is compiled only then. -/
theorem serial_eq_of_notMem (absent : text ∉ cache.keys)
    (given : (cache.get text).1 = .ok cached) : cached.serial = cache.compiled := by
  obtain ⟨found, known, -⟩ | ⟨-, ⟨error, -, gives⟩ | ⟨regexp, made, -, made_eq, gives⟩⟩ :=
    cache.get_cases text
  · exact absurd (List.mem_map_of_mem (cache.mem_entries_of_find? text known)) absent
  · rw [gives] at given
    cases given
  · rw [gives] at given
    cases given
    rw [made_eq]

theorem serial_lt_behind (capacity : Nat) {earlier : List Operation} (later : List Operation)
    (given : ((behind capacity earlier).get text).1 = .ok cached) :
    cached.serial < (behind capacity (earlier ++ .get text :: later)).compiled := by
  induction later using List.reverseRecOn with
  | nil =>
      rw [behind_concat]
      exact serial_lt_of_get (behind_reflects capacity earlier) given
  | append_singleton later operation ih =>
      rw [← List.cons_append, ← List.append_assoc, behind_concat]
      exact Nat.lt_of_lt_of_le ih (compiled_le_perform _ operation)

end Objects

/-! ## Main statements -/

/-- What a bounded cache does that keeps what was used last.  It is said of the cache behind some
operations on a new one, and of what asking for a pattern then gives. -/
structure KeepsRecent (capacity : Nat) (history : List Operation) : Prop where
  /-- The keys are the patterns that were got last, in that order. -/
  keys_eq : (behind capacity history).keys =
    (gotTexts history).dedup.rtake (min capacity (gotTexts history).dedup.length)
  distinct : (behind capacity history).keys.Nodup
  size_le : (behind capacity history).size ≤ capacity
  nothing : capacity = 0 → (behind capacity history).entries = []
  /-- A pattern is got exactly if it is not refused. -/
  got_iff : ∀ text, (∃ cached, ((behind capacity history).get text).1 = .ok cached) ↔
    (Regexp.parse text).isOk = true
  /-- A pattern that is kept gives what is kept for it, which becomes the latest entry. -/
  kept : ∀ text ∈ (behind capacity history).keys,
    ∃ cached, (text, cached) ∈ (behind capacity history).entries ∧
      (behind capacity history).get text =
        (.ok cached, { behind capacity history with
          entries := (behind capacity history).entries.filter (·.1 != text) ++ [(text, cached)] })
  /-- It is what the pattern gave when it was asked for last. -/
  sameObject : ∀ text ∈ (behind capacity history).keys, ∀ earlier later,
    history = earlier ++ .get text :: later → .get text ∉ later →
      ((behind capacity history).get text).1 = ((behind capacity earlier).get text).1
  /-- A pattern that is not kept gives what no pattern gave before. -/
  newObject : ∀ text ∉ (behind capacity history).keys, ∀ earlier other later,
    history = earlier ++ .get other :: later →
      ∀ cached, ((behind capacity history).get text).1 = .ok cached →
        ((behind capacity earlier).get other).1 ≠ .ok cached
  /-- A pattern that is refused leaves everything as it was. -/
  refused : ∀ text error, ((behind capacity history).get text).1 = .error error →
    ((behind capacity history).get text).2 = behind capacity history

/-- A cache keeps the patterns that were got last, whatever was done with it. -/
theorem behind_keepsRecent (capacity : Nat) (history : List Operation) :
    KeepsRecent capacity history := by
  have reflects := behind_reflects capacity history
  have size_le : (behind capacity history).size ≤ capacity :=
    reflects.size_le.trans_eq reflects.capacity_eq
  refine ⟨reflects.keys_eq, ?_, size_le, ?_, reflects.got_iff,
    fun text => exists_entry_of_mem_keys _ text, ?_, ?_, fun text _ => get_of_refused _ text⟩
  · rw [reflects.keys_eq]
    exact recent_nodup ..
  · rintro rfl
    exact List.eq_nil_of_length_eq_zero (Nat.le_zero.mp size_le)
  · rintro text member earlier later rfl latest
    obtain ⟨cached, inside, gives⟩ := exists_entry_of_mem_keys _ text member
    rw [gives, get_eq_of_mem_behind capacity latest inside]
  · rintro text absent earlier other later rfl cached given earlierGiven
    have serial_lt := serial_lt_behind capacity later earlierGiven
    rw [serial_eq_of_notMem absent given] at serial_lt
    exact Nat.lt_irrefl _ serial_lt

theorem map_regexp_get (capacity : Nat) (history : List Operation) (text : List Char) :
    (·.regexp) <$> ((behind capacity history).get text).1 =
      ({ · with limits := latestLimits history }) <$> Regexp.parse text := by
  have reflects := behind_reflects capacity history
  obtain ⟨cached, found, gives⟩ | ⟨-, ⟨error, parses, gives⟩ |
    ⟨regexp, cached, parses, made, gives⟩⟩ := (behind capacity history).get_cases text
  · obtain ⟨regexp, parses, compiled⟩ :=
      reflects.compiles text cached (mem_entries_of_find? _ _ found)
    rw [gives, parses, ← reflects.limits_eq]
    exact congrArg Except.ok compiled
  · rw [gives, parses]
    rfl
  · rw [gives, parses, ← reflects.limits_eq]
    exact congrArg (fun cached => Except.ok cached.regexp) made

/-- What is found with a regular expression: all matches in a subject, and what the searches from a
match state on come to, wherever they begin. -/
def searches (subject : Subject) (state : MatchState) (position : Nat) (regexp : Regexp) :=
  (regexp.findAll subject, state.find regexp subject, state.findFrom regexp subject position,
    state.exec regexp subject position)

/-- A cache cannot be told from compiling every pattern again, whatever was done with it: it gives
the same regular expression or the same error, and so the same is found. -/
theorem get_behind (capacity : Nat) (history : List Operation) (text : List Char) :
    (·.regexp) <$> ((behind capacity history).get text).1 =
      ({ · with limits := latestLimits history }) <$> Regexp.parse text ∧
    ∀ subject state position,
      (fun cached => searches subject state position cached.regexp) <$>
          ((behind capacity history).get text).1 =
        (fun regexp =>
          searches subject state position { regexp with limits := latestLimits history }) <$>
          Regexp.parse text := by
  have same := map_regexp_get capacity history text
  refine ⟨same, fun subject state position => ?_⟩
  have found := congrArg (searches subject state position <$> ·) same
  simpa only [Functor.map_map] using found

end Cache

end Backtracking
