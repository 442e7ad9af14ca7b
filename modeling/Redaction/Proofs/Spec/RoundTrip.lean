import Redaction.Proofs.Spec.Grammar

/-!
# Format specs are read as they are written

Every way of writing printable options is accepted and read as exactly those options, and only
printable options are ever read. So the options of an accepted spec can be written again in the
plainest way, and nothing that the first spec does is lost.
-/

namespace Redaction

namespace Spec

variable {o : Options} {spec : String}

/-- Whatever the layout of the list, a text that writes printable options is read as them. -/
theorem Writes.parse_eq (h : Writes o spec) (printable : o.Printable) : parse spec = .ok o := by
  rw [parse_eq_ok_iff]
  cases h with
  | markerOnly marker =>
      have hmarker : markerOf (marker.getD "").toList = marker :=
        markerOf_getD fun m hm => (printable.marker m hm).1
      refine .inl ⟨?_, by rw [hmarker]⟩
      cases marker with
      | none => simp
      | some m => exact (printable.marker m rfl).2
  | withNames marker set es names =>
      have hmarker : markerOf (marker.getD "").toList = marker :=
        markerOf_getD fun m hm => (printable.marker m hm).1
      have hfree : '$' ∉ (marker.getD "").toList := by
        cases marker with
        | none => simp
        | some m => exact (printable.marker m rfl).2
      obtain hnothing | ⟨set', hset, hmember, hidentifiers⟩ := printable.policy
      · simp at hnothing
      obtain rfl : set = set' := by simpa using hset
      have hlisted : ∀ name ∈ es.filterMap Entry.name?, isIdentifier name = true :=
        fun name hname => hidentifiers name ((names name).2 hname)
      have hsome : es.filterMap Entry.name? ≠ [] := by
        intro hnone
        apply hmember
        apply NameSet.ext
        intro name
        rw [names name, hnone]
        simp
      have hes : es ≠ [] := by
        rintro rfl
        exact hsome rfl
      have hentries := entries_allowList hes hlisted
      have hparsed : parseAllowList (allowList es) = .ok set := by
        rw [parseAllowList_eq_ok_iff, hentries]
        refine ⟨hsome, hlisted, NameSet.ext fun name => ?_⟩
        rw [names name, NameSet.mem_ofList]
      refine .inr ⟨(marker.getD "").toList, allowList es, set, ?_, hfree, hparsed, by rw [hmarker]⟩
      simp [String.toList_append]

/-- Only printable options are read. -/
theorem printable_of_parse (h : parse spec = .ok o) : o.Printable := by
  rw [parse_eq_ok_iff] at h
  obtain ⟨hfree, rfl⟩ | ⟨before, after, set, _, hfree, hset, rfl⟩ := h
  · refine ⟨fun m hm => ?_, .inl rfl⟩
    obtain ⟨hne, hchars⟩ := markerOf_eq_some_iff.1 hm
    exact ⟨hne, hchars ▸ hfree⟩
  · refine ⟨fun m hm => ?_, .inr ⟨set, rfl, ?_⟩⟩
    · obtain ⟨hne, hchars⟩ := markerOf_eq_some_iff.1 hm
      exact ⟨hne, hchars ▸ hfree⟩
    · obtain ⟨hsome, hidentifiers, rfl⟩ := parseAllowList_eq_ok_iff.1 hset
      refine ⟨?_, fun name hname => hidentifiers name (NameSet.mem_ofList.1 hname)⟩
      intro hempty
      apply hsome
      rw [List.eq_nil_iff_forall_not_mem]
      intro name hname
      have hmem := NameSet.mem_ofList.2 hname
      rw [hempty] at hmem
      exact NameSet.not_mem_empty hmem

/-- A name as an entry without blanks. -/
def Entry.plain (name : String) : Entry := .named .none name .none

theorem text_plain (name : String) : (Entry.plain name).text = name.toList := by
  simp [Entry.plain, Entry.text, Blanks.none]

theorem names_plain (names : List String) :
    (names.map Entry.plain).filterMap Entry.name? = names := by
  induction names with
  | nil => rfl
  | cons name names ih => simpa [Entry.plain, Entry.name?] using ih

/-- The plainest way to write printable options is one of the ways to write them. -/
theorem writes_print (h : o.Printable) : Writes o (print o) := by
  obtain ⟨marker, policy⟩ := o
  obtain hpolicy | ⟨set, hpolicy, _, _⟩ := h.policy
  · obtain rfl : policy = .nothing := hpolicy
    exact .markerOnly marker
  · obtain rfl : policy = .names set := hpolicy
    have hwritten := Writes.withNames marker set (set.toList.map Entry.plain) (by
      intro name
      rw [names_plain]
      exact NameSet.mem_def)
    have htexts : (set.toList.map Entry.plain).map Entry.text = set.toList.map String.toList := by
      rw [List.map_map]
      exact List.map_congr_left fun name _ => text_plain name
    have hlist : String.ofList (allowList (set.toList.map Entry.plain)) =
        ",".intercalate set.toList := by
      rw [allowList, htexts, ← String.toList_inj, String.toList_ofList, String.toList_intercalate]
      rfl
    rwa [hlist] at hwritten

/-- Reading undoes writing, and what is read can be written: a text that writes printable options
in any layout is accepted as exactly those options, without a word in the log; the options of an
accepted spec are printable, so the plainest text for them is accepted as the same options, and
every composite renders the same under both texts. -/
theorem read_written_iff_printable :
    (∀ o text, o.Printable → Writes o text → read text = pure (.ok o)) ∧
    (∀ spec o, (read spec).value = .ok o →
      o.Printable ∧ read (print o) = pure (.ok o) ∧
        ∀ c : Composite, c.renderSpec (print o) = c.renderSpec spec) := by
  refine ⟨?_, ?_⟩
  · intro o text printable written
    exact read_eq_pure_of_parse (written.parse_eq printable)
  · intro spec o hread
    rw [value_read] at hread
    have printable := printable_of_parse hread
    have hprint := read_eq_pure_of_parse ((writes_print printable).parse_eq printable)
    refine ⟨printable, hprint, fun c => ?_⟩
    rw [Composite.renderSpec, Composite.renderSpec, hprint, read_eq_pure_of_parse hread]

/-- Blanks of one space. -/
def Blanks.space : Blanks := ⟨[' '], fun c hc => by rw [List.mem_singleton.1 hc]; decide⟩

/-- A list with padding, a repeated name, an empty entry and a blank one is read as its two names,
and the plain text for them is read alike. -/
theorem read_padded_list :
    read "*** $ user ,host,, ,user" = pure (.ok ⟨some "*** ", .ofNames ["host", "user"]⟩) ∧
      ∀ c : Composite, c.renderSpec "*** $host,user" = c.renderSpec "*** $ user ,host,, ,user" := by
  have printable : Options.Printable ⟨some "*** ", .ofNames ["host", "user"]⟩ := by
    refine ⟨?_, .inr ⟨_, rfl, ?_, ?_⟩⟩
    · intro m hm
      obtain rfl : "*** " = m := by simpa using hm
      decide
    · decide
    · decide +kernel
  have written : Writes ⟨some "*** ", .ofNames ["host", "user"]⟩ "*** $ user ,host,, ,user" :=
    .withNames (some "*** ") (.ofList ["host", "user"])
      [.named .space "user" .space, .plain "host", .blank .none, .blank .space, .plain "user"]
      (by intro name; simp [Entry.plain, Entry.name?, List.filterMap_cons]; grind)
  have hread := read_written_iff_printable.1 _ _ printable written
  refine ⟨hread, ?_⟩
  exact (read_written_iff_printable.2 _ _ (congrArg Logged.value hread)).2.2

end Spec

end Redaction
