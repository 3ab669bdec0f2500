import JsonReference.Proofs.Config.Building

namespace JsonReference.Config

variable {c c' c₁ c₂ : Config} {edit : Edit} {source : Text} {rule : PathRule}
  {rules : List PathRule} {r : Reference}

inductive Call where
  | edit (edit : Edit)
  | apply (settings : Settings)

def Call.edits : Call → List Edit
  | .edit edit => [edit]
  | .apply settings => Edit.ofSettings settings

inductive Accepts : Config → List Call → Config → Prop
  | nil (c : Config) : Accepts c [] c
  | edit {c c₁ c' : Config} {edit : Edit} {rest : List Call} :
      edit.step c = .ok () c₁ → Accepts c₁ rest c' → Accepts c (.edit edit :: rest) c'
  | apply {c c₁ c' : Config} {settings : Settings} {rest : List Call} :
      settings.apply c = (none, c₁) → Accepts c₁ rest c' → Accepts c (.apply settings :: rest) c'

theorem make_append (c : Config) (front back : List Settings.Change) :
    Settings.make c (front ++ back) =
      match Settings.make c front with
      | (none, c') => Settings.make c' back
      | refused => refused := by
  induction front generalizing c with
  | nil => rfl
  | cons change rest ih =>
      rw [List.cons_append, Settings.make, Settings.make]
      cases change c with
      | ok c' => exact ih c'
      | error e => rfl

theorem Accepts.make_eq {calls : List Call} (h : c.Accepts calls c') :
    Settings.make c ((calls.flatMap Call.edits).map Edit.change) = (none, c') := by
  induction h with
  | nil => rfl
  | @edit c c₁ c' edit rest hstep _ ih =>
      rw [Edit.step_eq, Edit.outcome] at hstep
      rw [List.flatMap_cons, Call.edits, List.singleton_append, List.map_cons, Settings.make]
      split at hstep
      · next hchange =>
        cases hstep
        simpa only [hchange] using ih
      · cases hstep
  | @apply c c₁ c' settings rest happly _ ih =>
      rw [Settings.apply, Edit.changes_eq] at happly
      rw [List.flatMap_cons, List.map_append, make_append, Call.edits, happly]
      exact ih

def Edit.schemaRow? : Edit → Option (Text × Reference)
  | .addSchemaRedirect source target =>
      match absolute source, absolute target with
      | .ok s, .ok t => some (s.locator, t.toLocator)
      | _, _ => none
  | _ => none

def Edit.pathRow? : Edit → Option (Text × Text)
  | .addPathRedirect source target =>
      match directory source, directory target with
      | .ok s, .ok t => some (s, t)
      | _, _ => none
  | _ => none

def pathTable (c : Config) : Table Text Text := c.pathRules.map fun rule => (rule.source, rule.target)

/-- The target that the edits give last to a source, or else the one that it had before. -/
def left? {α : Type} (row? : Edit → Option (Text × α)) (before : Table Text α) (edits : List Edit)
    (source : Text) : Option α :=
  Table.find? source ((edits.filterMap row?).reverse ++ before)

def schemaLeft? (c : Config) (calls : List Call) : Text → Option Reference :=
  left? Edit.schemaRow? c.schemaRedirects (calls.flatMap Call.edits)

def pathLeft? (c : Config) (calls : List Call) : Text → Option Text :=
  left? Edit.pathRow? c.pathTable (calls.flatMap Call.edits)

inductive Entered (c c' : Config) : Option (Text × Reference) → Option (Text × Text) → Prop
  | none : c'.schemaRedirects = c.schemaRedirects → c'.pathRules = c.pathRules →
      Entered c c' none none
  | schema {source : Text} {target : Reference} :
      c'.schemaRedirects = c.schemaRedirects.put source target → c'.pathRules = c.pathRules →
      Entered c c' (some (source, target)) .none
  | path {source target : Text} : c'.schemaRedirects = c.schemaRedirects →
      c'.pathRules = insertRule ⟨source, target⟩ (c.pathRules.filter (·.source ≠ source)) →
      Entered c c' .none (some (source, target))

theorem entered_preloadAt {uri : Text} {document : Json} (h : c.preloadAt uri document = .ok c') :
    Entered c c' none none := by
  rw [Config.preloadAt] at h
  obtain ⟨r, -, h⟩ := Except.bind_ok_iff.mp h
  cases h
  exact .none rfl rfl

theorem Edit.entered (h : edit.change c = .ok c') : Entered c c' edit.schemaRow? edit.pathRow? := by
  cases edit with
  | register scheme downloader =>
      change c.register scheme downloader = .ok c' at h
      rw [Config.register] at h
      split at h
      · cases h
        exact .none rfl rfl
      · simp at h
  | unregister | setDereferencing | setCacheSize =>
      cases h
      exact .none rfl rfl
  | addSchemaRedirect source target =>
      change c.addSchemaRedirect source target = .ok c' at h
      rw [Config.addSchemaRedirect] at h
      obtain ⟨s, hs, h⟩ := Except.bind_ok_iff.mp h
      obtain ⟨t, ht, h⟩ := Except.bind_ok_iff.mp h
      split at h
      · simp at h
      · cases h
        simp only [Edit.schemaRow?, hs, ht]
        exact .schema rfl rfl
  | addPathRedirect source target =>
      change c.addPathRedirect source target = .ok c' at h
      rw [Config.addPathRedirect] at h
      obtain ⟨s, hs, h⟩ := Except.bind_ok_iff.mp h
      obtain ⟨t, ht, h⟩ := Except.bind_ok_iff.mp h
      split at h
      · simp at h
      · cases h
        simp only [Edit.pathRow?, hs, ht]
        exact .path rfl rfl
  | setBase uri =>
      change c.setBase uri = .ok c' at h
      rw [Config.setBase] at h
      obtain ⟨r, -, h⟩ := Except.bind_ok_iff.mp h
      cases h
      exact .none rfl rfl
  | preloadAt uri document => exact entered_preloadAt h
  | preload document =>
      change c.preload document = .ok c' at h
      rw [Config.preload] at h
      split at h
      · exact entered_preloadAt h
      · simp at h

theorem Entered.find?_schemaRedirects {row : Option (Text × Reference)} {other : Option (Text × Text)}
    (h : Entered c c' row other) (key : Text) :
    c'.schemaRedirects.find? key = Table.find? key (row.toList ++ c.schemaRedirects) := by
  cases h with
  | none hsame _ | path hsame _ => rw [hsame, Option.toList_none, List.nil_append]
  | schema hput _ =>
      rw [hput, Table.find?_put, Option.toList_some, List.singleton_append, Table.find?]
      simp only [eq_comm]

theorem find?_insertRule (hother : ∀ r ∈ rules, r.source ≠ rule.source) (key : Text) :
    Table.find? key ((insertRule rule rules).map fun r => (r.source, r.target)) =
      Table.find? key ((rule :: rules).map fun r => (r.source, r.target)) := by
  induction rules with
  | nil => rfl
  | cons first rest ih =>
      obtain ⟨hfirst, hrest⟩ := List.forall_mem_cons.mp hother
      rw [insertRule]
      split
      · rfl
      · rw [List.map_cons, Table.find?, ih hrest]
        simp only [List.map_cons, Table.find?]
        by_cases hkey : first.source = key
        · rw [if_pos hkey, if_neg (hkey ▸ hfirst.symm), if_pos hkey]
        · rw [if_neg hkey, if_neg hkey]

theorem Entered.find?_pathTable {row : Option (Text × Text)} {other : Option (Text × Reference)}
    (h : Entered c c' other row) (key : Text) :
    c'.pathTable.find? key = Table.find? key (row.toList ++ c.pathTable) := by
  cases h with
  | none _ hsame | schema _ hsame => rw [pathTable, hsame, Option.toList_none, List.nil_append, pathTable]
  | @path source target _ hput =>
      have hdrop : ((c.pathRules.filter (·.source ≠ source)).map fun r => (r.source, r.target)) =
          Table.drop source c.pathTable := by
        rw [Table.drop, pathTable, List.filter_map]
        rfl
      rw [pathTable, hput, find?_insertRule (by simp), List.map_cons, hdrop, Option.toList_some,
        List.singleton_append, Table.find?, Table.find?, Table.find?_drop]
      by_cases hkey : source = key
      · rw [if_pos hkey, if_pos hkey]
      · rw [if_neg hkey, if_neg hkey, if_neg (Ne.symm hkey)]

theorem find?_make {α : Type} {row? : Edit → Option (Text × α)} {table : Config → Table Text α}
    (hstep : ∀ {edit : Edit} {c c' : Config}, edit.change c = .ok c' → ∀ key,
      (table c').find? key = Table.find? key ((row? edit).toList ++ table c))
    {edits : List Edit} (h : Settings.make c (edits.map Edit.change) = (none, c')) (key : Text) :
    (table c').find? key = left? row? (table c) edits key := by
  induction edits generalizing c with
  | nil =>
      cases h
      rfl
  | cons edit rest ih =>
      rw [List.map_cons, Settings.make] at h
      split at h
      · next c₁ hc =>
        have hrows : (edit :: rest).filterMap row? = (row? edit).toList ++ rest.filterMap row? := by
          cases hrow : row? edit <;> simp [hrow]
        have hone : (row? edit).toList.reverse = (row? edit).toList := by
          cases row? edit <;> rfl
        rw [ih h, left?, left?, hrows, List.reverse_append, hone, List.append_assoc,
          Table.find?_append, hstep hc, ← Table.find?_append]
      · simp at h

/-- Where a locator leads, with the targets that there are: first to that of itself, and then, with
the longest directory that begins what it has come to, by one replacement to what that reads as. -/
inductive Redirected (schema? : Text → Option Reference) (path? : Text → Option Text)
    (r : Reference) : Reference → Prop
  | kept {first : Reference} : (schema? r.locator).getD r.toLocator = first →
      (∀ source target, path? source = some target → ¬ source <+: first.locator) →
      Redirected schema? path? r first
  | replaced {first : Reference} {source target back : Text} :
      (schema? r.locator).getD r.toLocator = first → path? source = some target →
      first.locator = source ++ back →
      (∀ other target', path? other = some target' → other <+: first.locator →
        other <+: source) →
      Redirected schema? path? r ((Reference.parse (target ++ back)).toOption.getD first)

theorem Redirected.unique {schema? : Text → Option Reference} {path? : Text → Option Text}
    {a b : Reference} (ha : Redirected schema? path? r a) (hb : Redirected schema? path? r b) :
    a = b := by
  cases ha with
  | kept hfirst hnone =>
      subst hfirst
      cases hb with
      | kept hfirst _ => exact hfirst
      | replaced hfirst htarget hback _ =>
          subst hfirst
          exact absurd ⟨_, hback.symm⟩ (hnone _ _ htarget)
  | replaced hfirst htarget hback hlongest =>
      subst hfirst
      cases hb with
      | kept hfirst hnone =>
          subst hfirst
          exact absurd ⟨_, hback.symm⟩ (hnone _ _ htarget)
      | replaced hfirst htarget' hback' hlongest' =>
          subst hfirst
          have hsource := (hlongest' _ _ htarget ⟨_, hback.symm⟩).eq_of_length_le
            (hlongest _ _ htarget' ⟨_, hback'.symm⟩).length_le
          subst hsource
          rw [hback, List.append_cancel_left_eq] at hback'
          rw [htarget, Option.some.injEq] at htarget'
          rw [hback', htarget']

theorem find?_pathTable_iff (h : c.WellFormed) {target : Text} :
    c.pathTable.find? source = some target ↔ ⟨source, target⟩ ∈ c.pathRules := by
  constructor
  · intro hfind
    obtain ⟨rule, hrule, heq⟩ := List.mem_map.mp (Table.mem_of_find? hfind)
    cases heq
    exact hrule
  · intro hrule
    have hsources : (c.pathTable.map (·.1)).Nodup := by
      rw [pathTable, List.map_map]
      exact h.sources
    exact Table.find?_of_mem hsources
      (List.mem_map_of_mem (f := fun r : PathRule => (r.source, r.target)) hrule)

theorem redirect_of_none (h : substitute? (c.schemaTarget r).locator c.pathRules = none) :
    c.redirect r = c.schemaTarget r := by
  simp only [redirect, h]

theorem redirect_of_some {text : Text}
    (h : substitute? (c.schemaTarget r).locator c.pathRules = some text) :
    c.redirect r = (Reference.parse text).toOption.getD (c.schemaTarget r) := by
  simp only [redirect, h]
  cases Reference.parse text <;> rfl

theorem redirected_redirect (h : c.WellFormed) (r : Reference) :
    Redirected (c.schemaRedirects.find? ·) (c.pathTable.find? ·) r (c.redirect r) := by
  rcases substitute?_cases h.longestFirst (c.schemaTarget r).locator with
    ⟨hnone, hall⟩ | ⟨rule, hrule, back, hback, hlongest, hsome⟩
  · rw [redirect_of_none hnone]
    exact .kept rfl fun source target htarget => hall _ ((find?_pathTable_iff h).mp htarget)
  · rw [redirect_of_some hsome]
    refine .replaced rfl ((find?_pathTable_iff h).mpr hrule) hback fun other target htarget => ?_
    exact hlongest _ ((find?_pathTable_iff h).mp htarget)

/-- After calls none of which is refused, a locator leads where it does by the targets that they
leave. Other calls that leave the same targets, in any order, leave it to lead there too. -/
theorem redirect_of_left (hc : c.Built) {calls₁ calls₂ : List Call} (h₁ : c.Accepts calls₁ c₁)
    (h₂ : c.Accepts calls₂ c₂)
    (hschema : ∀ source, c.schemaLeft? calls₁ source = c.schemaLeft? calls₂ source)
    (hpath : ∀ source, c.pathLeft? calls₁ source = c.pathLeft? calls₂ source) (r : Reference) :
    c₁.redirect r = c₂.redirect r ∧
    Redirected (c.schemaLeft? calls₁) (c.pathLeft? calls₁) r (c₁.redirect r) := by
  have hled {calls : List Call} {c' : Config} (h : c.Accepts calls c') :
      Redirected (c.schemaLeft? calls) (c.pathLeft? calls) r (c'.redirect r) := by
    have hbuilt := built_make hc (calls.flatMap Call.edits)
    rw [h.make_eq] at hbuilt
    have hschemas : (c'.schemaRedirects.find? ·) = c.schemaLeft? calls :=
      funext (find?_make (fun hchange => (Edit.entered hchange).find?_schemaRedirects) h.make_eq)
    have hpaths : (c'.pathTable.find? ·) = c.pathLeft? calls :=
      funext (find?_make (fun hchange => (Edit.entered hchange).find?_pathTable) h.make_eq)
    rw [← hschemas, ← hpaths]
    exact redirected_redirect hbuilt.wellFormed r
  have hled₂ := hled h₂
  rw [← funext hschema, ← funext hpath] at hled₂
  exact ⟨(hled h₁).unique hled₂, hled h₁⟩

def pathRedirects : List PathRule :=
  [⟨"http://a/".toList, "http://b/".toList⟩, ⟨"http://e/".toList, "urn:c/".toList⟩]

def rerouted : List Call :=
  [.edit (.addPathRedirect "http://a/".toList "http://b/".toList),
    .edit (.addPathRedirect "http://e/".toList "urn:c/".toList),
    .edit (.addSchemaRedirect "urn:s".toList "http://e/s".toList),
    .edit (.addPathRedirect "HTTP://a/".toList "http://d/".toList)]

def rerouting : Settings :=
  { Settings.none with
    schemaRedirects := [("URN:s".toList, "urn:t".toList), ("urn:s".toList, "http://e/s".toList)]
    pathRedirects :=
      [("http://a/".toList, "http://d/".toList), ("http://e/".toList, "urn:c/".toList)] }

def reroutedAtOnce : List Call := [.apply rerouting, .edit (.setCacheSize 7)]

def routed : Config :=
  { bare with
    schemaRedirects := [("urn:s".toList, .ofHost "e".toList "/s".toList)]
    pathRules := [⟨"http://e/".toList, "urn:c/".toList⟩, ⟨"http://a/".toList, "http://d/".toList⟩] }

def routedAtOnce : Config := { routed with pathRules := routed.pathRules.reverse }

theorem redirect_of_left_shuffled :
    ∃ (calls₁ calls₂ : List Call) (c₁ c₂ : Config) (r : Reference),
      Reference.parse "urn:s".toList = .ok r ∧ bare.Accepts calls₁ c₁ ∧ bare.Accepts calls₂ c₂ ∧
      c₁.pathRules = c₂.pathRules.reverse ∧ c₁.pathRules.length = 2 ∧
      c₁.redirect r = c₂.redirect r ∧ (c₁.redirect r).locator = "urn:c/s".toList := by
  have hfirst : (Edit.addPathRedirect "http://a/".toList "http://b/".toList).step bare =
      .ok () { bare with pathRules := pathRedirects.take 1 } := by rfl
  have hsecond : (Edit.addPathRedirect "http://e/".toList "urn:c/".toList).step
      { bare with pathRules := pathRedirects.take 1 } =
        .ok () { bare with pathRules := pathRedirects } := by rfl
  have hschema : (Edit.addSchemaRedirect "urn:s".toList "http://e/s".toList).step
      { bare with pathRules := pathRedirects } =
        .ok () { routed with pathRules := pathRedirects } := by rfl
  have hagain : (Edit.addPathRedirect "HTTP://a/".toList "http://d/".toList).step
      { routed with pathRules := pathRedirects } = .ok () routed := by rfl
  have happly : rerouting.apply bare = (none, routedAtOnce) := by rfl
  have h₁ : bare.Accepts rerouted routed :=
    .edit hfirst (.edit hsecond (.edit hschema (.edit hagain (.nil routed))))
  have h₂ : bare.Accepts reroutedAtOnce { routedAtOnce with cacheSize := 7 } :=
    .apply happly (.edit rfl (.nil _))
  have hschemaLeft (source : Text) :
      bare.schemaLeft? rerouted source = bare.schemaLeft? reroutedAtOnce source := by
    calc
      bare.schemaLeft? rerouted source = routed.schemaRedirects.find? source := by rfl
      _ = Table.find? source (routed.schemaRedirects ++
          [("urn:s".toList, .ofOpaque "urn".toList "t".toList)]) :=
        (Table.find?_append_of_subset (by decide) source).symm
      _ = bare.schemaLeft? reroutedAtOnce source := by rfl
  have hpathLeft (source : Text) :
      bare.pathLeft? rerouted source = bare.pathLeft? reroutedAtOnce source := by
    calc
      bare.pathLeft? rerouted source = Table.find? source (List.reverse routed.pathTable ++
          [("http://a/".toList, "http://b/".toList)]) := by rfl
      _ = Table.find? source (List.reverse routed.pathTable) :=
        Table.find?_append_of_subset (by decide) source
      _ = routed.pathTable.find? source := Table.find?_reverse (by decide) source
      _ = bare.pathLeft? reroutedAtOnce source := by rfl
  obtain ⟨hsame, -⟩ := redirect_of_left .bare h₁ h₂ hschemaLeft hpathLeft
    (.ofOpaque "urn".toList "s".toList)
  exact ⟨rerouted, reroutedAtOnce, routed, { routedAtOnce with cacheSize := 7 }, _, by rfl, h₁, h₂,
    by rfl, by rfl, hsame, by rfl⟩

end JsonReference.Config
