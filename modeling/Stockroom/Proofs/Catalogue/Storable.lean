import Stockroom.Proofs.Catalogue.Filter

/-!
# Requests that the store can take

Every number of a list request that comes through is one that the store has room for, whatever the
configuration, as long as its defaults are such numbers and its fields are columns. All that the
store can then object to is in the name: a pattern that is too long, or a surrogate.
-/

namespace Stockroom

open Number Text

/-! ## Names with surrogates -/

theorem Like.isClean_of_escape {term : Points} (h : IsClean (escape term)) : IsClean term := by
  intro n hn
  refine h n (List.mem_flatMap.2 ⟨n, hn, ?_⟩)
  unfold escapePoint
  split <;> simp

theorem Store.exists_run {f : Filter} {term : Points} (hterm : f.name = some term)
    (hdirty : ¬ IsClean term) : ∃ run, filterFault? f = some (.notEncodable run) := by
  cases hrun : surrogateRun? (Like.escape term) with
  | none => exact absurd (Like.isClean_of_escape (isClean_of_surrogateRun? hrun)) hdirty
  | some run =>
    refine ⟨run, ?_⟩
    rw [filterFault?, hterm, Option.bind_some, hrun]

/-! ## Answers -/

theorem Store.exists_of_patternFault {s : Store} {f : Filter} (h : s.patternFault f = true) :
    ∃ term, f.name = some term ∧ Like.patternLimit < Like.patternBytes term := by
  unfold patternFault at h
  split at h
  · cases h
  · next term hterm =>
    simp only [Bool.and_eq_true, decide_eq_true_eq] at h
    exact ⟨term, hterm, h.1⟩

namespace Catalogue

/-- A query and a count that give products and their number. -/
def Answers (c : Catalogue) (q : Listing) : Prop :=
  (∃ found, (query q.filter q.order q.page q.rows c).result = .ok found) ∧
    ∃ n, (count q.filter c).result = .ok n

/-- A query and a count that both fail at the store, for one reason. -/
def Refuses (c : Catalogue) (q : Listing) (fault : StoreFault) : Prop :=
  (query q.filter q.order q.page q.rows c).result = .error (.store fault) ∧
    (count q.filter c).result = .error (.store fault)

variable {q : Listing}

/-- Of a request that fits the store refuses nothing but a pattern that is too long. -/
theorem answers_or_refuses (hq : q.Fits) {c : Catalogue} (hc : c.WellFormed) :
    c.Answers q ∨ c.Refuses q .patternTooLong ∧
      ∃ term, q.filter.name = some term ∧ Like.patternLimit < Like.patternBytes term := by
  obtain ⟨s, n, k, rfl, hs⟩ := hc.exists_ready
  by_cases hpattern : s.patternFault q.filter = true
  · exact Or.inr ⟨⟨query_of_patternFault hq hpattern, count_of_patternFault hq.filter hpattern⟩,
      Store.exists_of_patternFault hpattern⟩
  · exact Or.inl ⟨exists_query hs hq hpattern, exists_count hq hpattern⟩

theorem refuses_of_filterFault (hcolumn : ∃ field, q.order.column? = some field)
    {fault : StoreFault} (hfault : Store.filterFault? q.filter = some fault) {c : Catalogue}
    (hc : c.WellFormed) : c.Refuses q fault := by
  obtain ⟨s, n, k, rfl, -⟩ := hc.exists_ready
  obtain ⟨field, hfield⟩ := hcolumn
  exact ⟨query_of_filterFault hfault hfield q.page q.rows, count_of_filterFault hfault⟩

end Catalogue

/-- Every number of a request that comes through fits the store. So a query and a count of it are
answered, unless the pattern of its name is too long, or the name holds a surrogate. -/
theorem Listing.numbers_fit {config : ListConfig} (hpage : config.page ≤ maxInt64)
    (hrows : config.rows ≤ maxInt64)
    (hsortable : ∀ field ∈ config.sortable, field ∈ ListConfig.standard.sortable) {ps : Params}
    {q : Listing} (h : ofParams ps config = .ok q) :
    q.InRange ∧ ∀ (src : Sources) (calls : List Call),
      let c := (Catalogue.core src).after calls {}
      ((∀ term, q.filter.name = some term → IsClean term) →
        c.Answers q ∨ c.Refuses q .patternTooLong ∧
          ∃ term, q.filter.name = some term ∧ Like.patternLimit < Like.patternBytes term) ∧
      ∀ term, q.filter.name = some term → ¬ IsClean term →
        ∃ run, c.Refuses q (.notEncodable run) := by
  have hq := inRange_of_ofParams hpage hrows hsortable h
  refine ⟨hq, fun src calls => ?_⟩
  have hc := Catalogue.wellFormed_after src calls
  refine ⟨fun hclean => Catalogue.answers_or_refuses (hq.fits hclean) hc,
    fun term hterm hdirty => ?_⟩
  obtain ⟨run, hrun⟩ := Store.exists_run hterm hdirty
  exact ⟨run, Catalogue.refuses_of_filterFault hq.column hrun hc⟩

theorem Listing.largest_numbers_fit :
    let config : ListConfig := { page := 9223372036854775807, rows := 1 }
    let ps : Params := [("quantity", "-9223372036854775807"), ("cost", "1.7976931348623157e308")]
    let q : Listing := ⟨9223372036854775807, 1,
      { cost := some (.real (.ofRank false (infinityRank - 1)))
        quantity := some (-9223372036854775807) }, defaultOrder⟩
    config.page ≤ maxInt64 ∧ config.rows ≤ maxInt64 ∧
      (∀ field ∈ config.sortable, field ∈ ListConfig.standard.sortable) ∧
      ofParams ps config = .ok q ∧ q.InRange ∧ Catalogue.Answers {} q := by
  intro config ps q
  have hpage : config.page ≤ maxInt64 := by decide
  have hrows : config.rows ≤ maxInt64 := by decide
  have hsortable : ∀ field ∈ config.sortable, field ∈ ListConfig.standard.sortable :=
    fun _ h => h
  have hq : ofParams ps config = .ok q := eq_ok_of_toOption (by decide +kernel)
  obtain ⟨hrange, hstore⟩ := numbers_fit hpage hrows hsortable hq
  refine ⟨hpage, hrows, hsortable, hq, hrange, ?_⟩
  obtain ⟨hanswers, -⟩ := hstore .counting []
  rcases hanswers (by rintro _ ⟨⟩) with h | ⟨-, _, ⟨⟩, -⟩
  exact h

/-- A name that is a surrogate alone comes through, and the store refuses it. -/
theorem Listing.surrogate_refused :
    let q : Listing := ⟨1, 10, { name := some [0xD800] }, defaultOrder⟩
    ofParams [("name", [0xD800])] ListConfig.standard = .ok q ∧
      Catalogue.Refuses {} q (.notEncodable ⟨0xD800, 0, 1⟩) :=
  ⟨ofParams_name (by decide), Catalogue.refuses_of_filterFault ⟨.id, by decide⟩ (by decide)
    Catalogue.wellFormed_empty⟩

end Stockroom
