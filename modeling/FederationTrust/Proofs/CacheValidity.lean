import FederationTrust.Proofs.StatedLifetimes

/-!
# Validity of the cached copy

The cached copy is valid at an instant that comes before the time of its file and its lifetime
taken together, as exact numbers of nanoseconds. An end that is too late to be kept as an instant
is later than all that a clock shows, so that such a copy rightly counts as fresh. Whatever cannot
be read, or is no document with a lifetime, counts as stale.
-/

namespace FederationTrust

@[simp] theorem Lifetime.total_ofSeconds (n : UInt64) :
    (Lifetime.ofSeconds n).total = n.toNat * 1000000000 := by
  simp [Lifetime.total, Lifetime.ofSeconds]

variable {modified now : Instant} {lifetime : Lifetime}

/-- What has no end that could be kept is fresh as long as clocks go. -/
theorem isFresh_of_no_end (shown : now.Shown) (none : modified.add? lifetime = none) :
    isFresh modified lifetime now = true ∧ now.total < modified.total + lifetime.total := by
  have fresh : isFresh modified lifetime now = true := by
    rw [isFresh, none]
  exact ⟨fresh, (isFresh_iff shown).mp fresh⟩

theorem isFresh_eq_false_iff (shown : now.Shown) :
    isFresh modified lifetime now = false ↔ modified.total + lifetime.total ≤ now.total := by
  rw [← Bool.not_eq_true, isFresh_iff shown]
  omega

/-- The cached copy at a path is valid at an instant exactly when the path leads to a file whose
content and time may be looked at, whose content is a document with a lifetime, and whose time and
lifetime, or the standard one, together come after the instant. For the end counts nothing but the
exact sum: one that cannot be kept is later than the instant, the end itself is no longer within
the lifetime, and a lifetime of zero is over when it begins. -/
theorem isCacheValidAt_iff_before_end (w : Machine) (path : Path) (standard : UInt64)
    (now : Instant) (shown : now.Shown) :
    (((isCacheValidAt path standard now).run w).1 = true ↔
      ∃ document modified j ttl, w.files.file? path = some (document, modified) ∧
        w.Admits 0 ∧ w.Admits 1 ∧ Json.parse? document = some j ∧ CachedCopy.States j ttl ∧
        now.total < modified.total + (ttl.getD standard).toNat * 1000000000) ∧
    ∀ modified lifetime,
      (modified.add? lifetime = none → isFresh modified lifetime now = true ∧
        now.total < modified.total + lifetime.total) ∧
      (now.total = modified.total + lifetime.total → isFresh modified lifetime now = false) ∧
      (lifetime.total = 0 → modified.total ≤ now.total →
        isFresh modified lifetime now = false) := by
  constructor
  · rw [isCacheValidAt_iff]
    simp only [CachedCopy.lifetime?_eq_some_iff, isFresh_iff shown]
    constructor
    · rintro ⟨⟨document, modified, _, file, ⟨j, ttl, holds, states, rfl⟩, early⟩, first, second⟩
      rw [Lifetime.total_ofSeconds] at early
      exact ⟨document, modified, j, ttl, file, first, second, holds, states, early⟩
    · rintro ⟨document, modified, j, ttl, file, first, second, holds, states, early⟩
      refine ⟨⟨document, modified, _, file, ⟨j, ttl, holds, states, rfl⟩, ?_⟩, first, second⟩
      rw [Lifetime.total_ofSeconds]
      exact early
  · intro modified lifetime
    refine ⟨isFresh_of_no_end shown, ?_, ?_⟩
    · intro ends
      rw [isFresh_eq_false_iff shown]
      omega
    · intro zero since
      rw [isFresh_eq_false_iff shown]
      omega

/-- A copy with the greatest lifetime is valid at the last instant that a clock shows, though its end
cannot be kept; one of a minute is not valid a minute after its time. -/
theorem greatest_lifetime_never_ends :
    let last : Instant := ⟨9223372036854775807, 999999999⟩
    let greatest := Json.ofWord 18446744073709551615
    last.Shown ∧ Instant.add? ⟨7, 0⟩ (.ofSeconds 18446744073709551615) = none ∧
    ((isCacheValidAt ⟨"c"⟩ 3600 last).run (.quiet (Sample.ttlFiles greatest) ⟨9, 0⟩ 1)).1 = true ∧
    ((isCacheValidAt ⟨"c"⟩ 3600 ⟨67, 0⟩).run
      (.quiet (Sample.ttlFiles (.ofWord 60)) ⟨9, 0⟩ 1)).1 ≠ true := by
  intro last greatest
  have shown : last.Shown := by decide
  have holds (ttl : Json) : Json.parse? (Sample.ttlDocument ttl) =
      some (.object (Sample.ttlMembers ttl)) := Json.parse?_render _
  have states (n : UInt64) :
      CachedCopy.States (.object (Sample.ttlMembers (.ofWord n))) (some n) :=
    .stated (by simp [Sample.ttlMembers]) rfl (.seconds n)
  obtain ⟨valid, -⟩ := isCacheValidAt_iff_before_end
    (.quiet (Sample.ttlFiles greatest) ⟨9, 0⟩ 1) ⟨"c"⟩ 3600 last shown
  obtain ⟨late, -⟩ := isCacheValidAt_iff_before_end
    (.quiet (Sample.ttlFiles (.ofWord 60)) ⟨9, 0⟩ 1) ⟨"c"⟩ 3600 ⟨67, 0⟩ (by decide)
  refine ⟨shown, by decide, ?_, ?_⟩
  · exact valid.mpr ⟨_, ⟨7, 0⟩, _, _, rfl, by decide, by decide, holds _, states _, by decide⟩
  · intro told
    obtain ⟨document, modified, j, ttl, file, -, -, read, stated, early⟩ := late.mp told
    obtain ⟨rfl, rfl⟩ := Prod.mk.inj (Option.some.inj file)
    obtain rfl := Option.some.inj ((holds _).symm.trans read)
    obtain rfl := stated.unique (states 60)
    revert early
    decide

end FederationTrust
