import JsonReference.Proofs.RefChain.Hops

namespace JsonReference.RefChain

open Loader

variable {s s' a b : Tree × Loader}

def Current (l : Loader) (r : Reference) (document : Json) : Prop :=
  r.isAbsolute = false ∨ l.supply r = .ok document

theorem Current.agree {l l' : Loader} {r : Reference} {document : Json} (h : Current l r document)
    (hl : l.Agree l') : Current l' r document := by
  rw [Current] at h ⊢
  rwa [← hl.supply_eq]

/-- What a chain comes to from a document had by a reference: that one, or what the loader has by
another. -/
structure Met (start : Reference × Json) (s : Tree × Loader) : Prop where
  obtained : s.1.Obtained
  inScope : s.1.InScope (.make s.1.loadingRef s.1.document s.2.config.dereferencing)
  had : (s.1.loadingRef, s.1.document) = start ∨
    s.1.loadingRef.isAbsolute ∧ s.2.supply s.1.loadingRef = .ok s.1.document

namespace Met

variable {start : Reference × Json}

theorem agree (h : Met start s) {l : Loader} (hl : s.2.Agree l) : Met start (s.1, l) := by
  have hconfig : s.2.config.dereferencing = l.config.dereferencing := hl.congr fun _ => rfl
  refine ⟨h.obtained, hconfig ▸ h.inScope, ?_⟩
  rw [← hl.supply_eq]
  exact h.had

theorem jumpTo (h : Met start s) (p : Pointer) : Met start (s.1.jumpTo p, s.2) := by
  have hin := h.inScope.jumpTo p
  refine ⟨h.obtained.jumpTo p, hin.self, ?_⟩
  simp only [hin.loadingRef_eq, hin.document_eq]
  exact h.had

theorem getRef {l : Loader} (hl : l.Sound) {r : Reference} (hr : r.uri.Obtained) {t : Tree}
    (h : (l.getRef r).1 = .ok t) : Met start (t, l) :=
  ⟨obtained_getRef hl.config hr h, inScope_getRef h, .inr (supply_getRef hl hr h)⟩

theorem next (h : Met start s) (hl : s.2.Sound) (hs : next? s = some s') :
    Met start s' ∧ s.2.Agree s'.2 := by
  obtain ⟨target, t, p, ht, hland, rfl⟩ := next?_some hs
  have hr := target?_obtained h.obtained ht
  have hagree := (transparent_land (t := s.1) hr).agree s.2 hl
  have hheld : Met start (t, s.2) := by
    have hholder := (land_ok hland).1
    rw [holder_eq] at hholder
    split at hholder
    · cases hholder
      exact h
    · exact getRef hl (hr.withFragment none) (Except.mapError_ok_iff.mp hholder)
  exact ⟨(hheld.jumpTo p).agree hagree, hagree⟩

theorem hops (h : Met start s) (hl : s.2.Sound) {n : Nat} (hs : hops n s = some s') :
    Met start s' ∧ s.2.Agree s'.2 := by
  induction n generalizing s with
  | zero =>
      cases hs
      exact ⟨h, .refl hl⟩
  | succ n ih =>
      obtain ⟨u, hu, hs⟩ := Option.bind_eq_some_iff.mp hs
      obtain ⟨hmet, hagree⟩ := h.next hl hu
      obtain ⟨hmet', hagree'⟩ := ih hmet hagree.right hs
      exact ⟨hmet', hagree.trans hagree'⟩

theorem supply_eq (h : Met start s) (hstart : Current s.2 start.1 start.2)
    (ha : s.1.loadingRef.isAbsolute) :
    s.2.supply s.1.loadingRef = .ok s.1.document := by
  rcases h.had with hown | ⟨-, hsupply⟩
  · rw [← hown] at hstart
    exact hstart.resolve_left (by simp [ha])
  · exact hsupply

theorem document_eq (ha : Met start a) (hb : Met start b) (hagree : a.2.Agree b.2)
    (hstart : Current a.2 start.1 start.2) (hr : a.1.loadingRef = b.1.loadingRef) :
    a.1.document = b.1.document := by
  cases habsolute : a.1.loadingRef.isAbsolute with
  | true =>
      have hsa := ha.supply_eq hstart habsolute
      have hsb := hb.supply_eq (hstart.agree hagree) (hr ▸ habsolute)
      rw [hagree.supply_eq, hr, hsb] at hsa
      exact (Except.ok.inj hsa).symm
  | false =>
      have howna := ha.had.resolve_right (by simp [habsolute])
      have hownb := hb.had.resolve_right (by simp [← hr, habsolute])
      exact congrArg Prod.snd (howna.trans hownb.symm)

theorem like (ha : Met start a) (hb : Met start b) (hagree : a.2.Agree b.2)
    (hr : a.1.loadingRef = b.1.loadingRef) (hd : a.1.document = b.1.document)
    (hp : a.1.pointer = b.1.pointer) : Like a b := by
  refine ⟨⟨_, ha.inScope, ?_⟩, hp, ha.obtained, hagree⟩
  have hconfig : a.2.config.dereferencing = b.2.config.dereferencing := hagree.congr fun _ => rfl
  rw [hr, hd, hconfig]
  exact hb.inScope

end Met

section Loop

variable {l : Loader} {c : RefChain} {target : Reference} {chain : List Reference}

def loop? : Except ChainError RefChain → Option (List Reference)
  | .error (.loop chain) => some chain
  | _ => none

theorem loop?_some {result : Except ChainError RefChain} (h : loop? result = some chain) :
    result = .error (.loop chain) := by
  unfold loop? at h
  split at h
  · cases h
    rfl
  · simp at h

theorem target?_ne_loop (t : Tree) : target? t ≠ .error (.loop chain) := by
  rw [target?]
  split
  · simp
  · split <;> simp

theorem hop_loop (h : (hop l c target).1 = .error (.loop chain)) :
    ∃ t p, (land l c.tree target).1 = .ok (t, p) ∧
      ((land l c.tree target).2.documentKey t, p) ∈ c.visited ∧
      chain = c.references ++ [target] := by
  rw [hop_eq] at h
  rcases Except.bind_error_iff.mp h with hland | ⟨⟨t, p⟩, hland, harrive⟩
  · rcases land_error hland with ⟨_, he⟩ | he <;> cases he
  · rw [arrive] at harrive
    split at harrive
    · next hnode =>
      cases harrive
      exact ⟨t, p, hland, hnode, rfl⟩
    · simp at harrive

def node (s : Tree × Loader) : DocumentKey × Pointer := (s.2.documentKey s.1, s.1.pointer)

theorem node_jumpTo (l : Loader) (t : Tree) (p : Pointer) :
    node (t.jumpTo p, l) = (l.documentKey t, p) := by
  simp [node, Loader.documentKey]

/-- The chain has come from `s` by the hops that there are references in it, and its nodes are
those that the hops led to. -/
structure Trail (s : Tree × Loader) (c : RefChain) (l : Loader) : Prop where
  hops_eq : hops c.references.length s = some (c.tree, l)
  visited : ∀ n ∈ c.visited, ∃ j a, 0 < j ∧ j ≤ c.references.length ∧ hops j s = some a ∧ n = node a

namespace Trail

theorem start (t : Tree) (l : Loader) : Trail (t, l) (start t) l := ⟨rfl, by simp [RefChain.start]⟩

theorem hops_succ (h : Trail s c l) (ht : target? c.tree = .ok (some target)) {t : Tree}
    {p : Pointer} (hland : (land l c.tree target).1 = .ok (t, p)) :
    hops (c.references.length + 1) s = some (t.jumpTo p, (land l c.tree target).2) := by
  rw [hops_add, h.hops_eq, Option.bind_some, hops, next?_eq ht, hland]
  rfl

theorem hop (h : Trail s c l) (ht : target? c.tree = .ok (some target)) {c' : RefChain}
    (hhop : (hop l c target).1 = .ok c') : Trail s c' (hop l c target).2 := by
  obtain ⟨t, p, hland, harrive⟩ := hop_ok hhop
  obtain ⟨-, rfl⟩ := arrive_ok harrive
  have hsucc := h.hops_succ ht hland
  rw [hop_eq]
  refine ⟨by simpa using hsucc, ?_⟩
  intro n hn
  rcases List.mem_cons.mp hn with rfl | hn
  · exact ⟨_, _, Nat.succ_pos _, by simp, hsucc, (node_jumpTo _ t p).symm⟩
  · obtain ⟨j, a, hj, hle, ha⟩ := h.visited n hn
    exact ⟨j, a, hj, by simp; omega, ha⟩

theorem loop (h : Trail s c l) {maxDepth left : Nat}
    (hloop : (follow maxDepth left l c).1 = .error (.loop chain)) :
    ∃ j a b, 0 < j ∧ j < chain.length ∧ hops j s = some a ∧ hops chain.length s = some b ∧
      node a = node b := by
  -- every hop but the last extends the trail
  induction left generalizing c l with
  | zero =>
      rw [follow] at hloop
      split at hloop
      · next ht =>
        cases hloop
        exact absurd ht (target?_ne_loop c.tree)
      · simp at hloop
      · simp at hloop
  | succ left ih =>
      cases ht : target? c.tree with
      | error e =>
          simp only [follow, ht, Except.error.injEq] at hloop
          exact absurd (hloop ▸ ht) (target?_ne_loop c.tree)
      | ok result =>
          cases result with
          | none => simp [follow, ht] at hloop
          | some target =>
              rw [follow_succ maxDepth left l c ht] at hloop
              cases hhop : (RefChain.hop l c target).1 with
              | ok c' =>
                  rw [hhop] at hloop
                  exact ih (h.hop ht hhop) hloop
              | error e =>
                  simp only [hhop, Except.error.injEq] at hloop
                  obtain ⟨t, p, hland, hmem, rfl⟩ := hop_loop (hloop ▸ hhop)
                  obtain ⟨j, a, hj, hle, ha, hnode⟩ := h.visited _ hmem
                  refine ⟨j, a, _, hj, by simp; omega, ha, by simpa using h.hops_succ ht hland, ?_⟩
                  rw [← hnode, node_jumpTo]

end Trail

end Loop

/-- A tree that a loader of this configuration gave, wherever it was moved to, and the loader after
more was done with it. -/
inductive Had (config : Config) (since : List Operation) : Tree × Loader → Prop
  | had {t₀ t : Tree} (before : List Operation) (op : Operation) (moves : List Move) :
      (∀ op ∈ before, op.Obtained) → op.Obtained → (∀ op ∈ since, op.Obtained) →
      (op.perform (Operation.run before (.make config)).2).1 = .tree (.ok t₀) →
      t ∈ ((Walk.start t₀).run moves).trees →
      Had config since
        (t, (Operation.run since (op.perform (Operation.run before (.make config)).2).2).2)

section Had

variable {config : Config} {since : List Operation}

theorem met_getRef {l : Loader} (hl : l.Sound) {r : Reference} (hr : r.uri.Obtained) {t : Tree}
    (h : (l.getRef r).1 = .ok t) :
    Met (t.loadingRef, t.document) (t, l) ∧ Current l t.loadingRef t.document :=
  ⟨.getRef hl hr h, .inr (supply_getRef hl hr h).2⟩

theorem met_perform {l : Loader} (hl : l.Sound) {op : Operation} (ho : op.Obtained) {t : Tree}
    (h : (op.perform l).1 = .tree (.ok t)) :
    Met (t.loadingRef, t.document) (t, l) ∧ Current l t.loadingRef t.document := by
  cases op with
  | getRef r => exact met_getRef hl ho (Answer.tree.inj h)
  | get uri =>
      have hget := Answer.tree.inj h
      cases hp : Reference.parse uri with
      | ok r => exact met_getRef hl (Reference.obtained_of_parse hp) (get_of_parse hp l ▸ hget)
      | error e =>
          obtain ⟨e', hfail⟩ := get_of_parse_error hp
          simp [hfail] at hget
  | load document =>
      cases h
      exact ⟨⟨.make .empty _ _, .make _ _ _, .inl rfl⟩, .inl rfl⟩
  | _ => cases h

theorem agree_perform_tree {l : Loader} (hl : l.Sound) {op : Operation} (ho : op.Obtained)
    {result : Except LoadError Tree} (h : (op.perform l).1 = .tree result) :
    l.Agree (op.perform l).2 :=
  have hb : op.isBundle = false := by cases op <;> first | rfl | cases h
  (Operation.transparent_perform ho hb).agree l hl

theorem Had.met (hc : config.Built) (hd : config.ByLocator) (h : Had config since s) :
    ∃ start, Met start s ∧ s.2.Sound ∧
      ((∀ op ∈ since, op.isBundle = false) → Current s.2 start.1 start.2) := by
  obtain @⟨t₀, t, before, op, moves, hbefore, hop, hsince, h₀, ht⟩ := h
  have hsound := (Operation.agree_run hbefore (.refl (sound_make hc.sound hd))).2.left
  obtain ⟨hmet, hcurrent⟩ := met_perform hsound hop h₀
  have hagree := agree_perform_tree hsound hop h₀
  have hconfig := (Operation.run_config hsince hagree.right).trans hagree.config_eq.symm
  have hin := (Walk.InScope.start hmet.inScope).run moves t ht
  refine ⟨(t₀.loadingRef, t₀.document), ⟨hin.obtained hmet.obtained.loadingRef, ?_, .inl ?_⟩,
    (Operation.agree_run hsince (.refl hagree.right)).2.left, ?_⟩
  · have hdereferencing := congrArg Config.dereferencing hconfig
    simp only [Config.setCacheSize] at hdereferencing
    rw [hdereferencing]
    exact hin.self
  · simp only [hin.loadingRef_eq, hin.document_eq]
    rfl
  · intro hb
    have hfilter : since.filter Operation.isBundle = [] := by
      simpa [List.filter_eq_nil_iff] using hb
    have hsame := Operation.agree_run_bundles hsince (.refl hagree.right)
    rw [hfilter] at hsame
    exact hcurrent.agree (hagree.trans hsame.symm)

def opened? (config : Config) (uri : Text) : Option (Tree × Loader) :=
  ((Loader.make config).get uri).1.toOption.map fun t => (t, ((Loader.make config).get uri).2)

theorem had_opened {uri : Text} (h : opened? config uri = some s) :
    Had config [] s := by
  obtain ⟨t, ht, rfl⟩ := Option.map_eq_some_iff.mp h
  have hget := Except.toOption_some_iff.mp ht
  exact .had [] (.get uri) [] (by simp) trivial (by simp) (congrArg Answer.tree hget)
    (by simp [Walk.start, Walk.run])

end Had

/-- A chain that is told to loop has come to one node twice. If it came there under one reference
both times and found the same document, as it does when nothing has been bundled since the tree was
had, then it would go on for good. -/
theorem endless_of_loop {config : Config} (hc : config.Built) (hd : config.ByLocator)
    {since : List Operation} {s : Tree × Loader} (h : Had config since s) {maxDepth : Nat}
    {chain : List Reference} (hloop : (resolve s.2 maxDepth s.1).1 = .error (.loop chain)) :
    ∃ j a b, 0 < j ∧ j < chain.length ∧ hops j s = some a ∧ hops chain.length s = some b ∧
      node a = node b ∧
      (a.1.loadingRef = b.1.loadingRef →
        (a.1.document = b.1.document ∨ ∀ op ∈ since, op.isBundle = false) →
        ∀ n, (hops n s).isSome) := by
  obtain ⟨start, hmet, hsound, hcurrent⟩ := h.met hc hd
  obtain ⟨j, a, b, hj, hjk, ha, hb, hnode⟩ := (Trail.start s.1 s.2).loop hloop
  refine ⟨j, a, b, hj, hjk, ha, hb, hnode, ?_⟩
  intro hr hdocument n
  obtain ⟨hmeta, hagreea⟩ := hmet.hops hsound ha
  obtain ⟨hmetb, hagreeb⟩ := hmet.hops hsound hb
  have hagree := hagreea.symm.trans hagreeb
  have hsame : a.1.document = b.1.document := by
    rcases hdocument with hdocument | hsince
    · exact hdocument
    · exact hmeta.document_eq hmetb hagree ((hcurrent hsince).agree hagreea) hr
  have hlike := hmeta.like hmetb hagree hr hsame (congrArg Prod.snd hnode)
  exact endless_of_return hjk ha hb hlike n

theorem endless_of_loop_filed :
    ∃ s chain, Had Operation.filed [] s ∧
      (resolve s.2 defaultMaxDepth s.1).1 = .error (.loop chain) ∧ ∀ n, (hops n s).isSome := by
  have hloop : ((opened? Operation.filed "file:///d".toList).bind fun s =>
      (loop? (resolve s.2 defaultMaxDepth s.1).1).map List.length) = some 2 := by decide +kernel
  have hparts : ((opened? Operation.filed "file:///d".toList).bind (hops 1)).map
        (·.1.loadingRef.parts) =
      ((opened? Operation.filed "file:///d".toList).bind (hops 2)).map
        (·.1.loadingRef.parts) := by decide +kernel
  obtain ⟨s, hs, hchain⟩ := Option.bind_eq_some_iff.mp hloop
  obtain ⟨chain, hchain, hlength⟩ := Option.map_eq_some_iff.mp hchain
  have hhad := had_opened hs
  have hresolve := loop?_some hchain
  obtain ⟨j, a, b, hj, hjk, ha, hb, -, hendless⟩ :=
    endless_of_loop Operation.built_filed Operation.byLocator_filed hhad hresolve
  obtain rfl : j = 1 := by omega
  rw [hs, Option.bind_some, Option.bind_some, ha, ← hlength, hb] at hparts
  have hr := Reference.parts_inj (Option.some.inj hparts)
  exact ⟨s, chain, hhad, hresolve, hendless hr (.inr (by simp))⟩

def pages : Table Text Text :=
  [("http://b/s".toList, "\x7b\"$ref\":\"d\"\x7d".toList),
    ("http://b/d".toList, "\x7b\"$ref\":\"e\"\x7d".toList),
    ("http://b/e".toList, "\x7b\"$ref\":\"http://a/d\"\x7d".toList),
    ("http://a/e".toList, "\x7b\"end\":true\x7d".toList)]

def paged : Downloader where
  name := "pages".toList
  fetch r :=
    match pages.find? r.locator with
    | some text => .ok (Text.octets text)
    | none => .error (.notFound r.locator)

def aliased : Config :=
  { Config.bare with
    downloaders := [("http".toList, paged)]
    schemaRedirects := [("http://a/d".toList,
      ⟨⟨some "http".toList, some "b".toList, "/d".toList, none, none⟩, .pointer .root⟩)] }

theorem built_aliased : aliased.Built :=
  .addSchemaRedirect "http://a/d".toList "http://b/d".toList
    (.register "http".toList paged .bare rfl) rfl

theorem byLocator_aliased : aliased.ByLocator := by
  intro row hrow r r' _ _ he
  rw [List.mem_singleton.mp hrow]
  simp only [paged, he]

/-- The chain comes to `d` by way of `b` and then by way of `a`, where it is told to loop. Followed
further it comes to a node that is no reference. -/
theorem loop_of_aliased :
    aliased.Built ∧ aliased.ByLocator ∧ ∃ s chain, Had aliased [] s ∧
      (resolve s.2 defaultMaxDepth s.1).1 = .error (.loop chain) ∧
      ∃ b, hops 4 s = some b ∧ b.1.node?.isSome ∧ b.1.node?.bind Json.refText? = none := by
  refine ⟨built_aliased, byLocator_aliased, ?_⟩
  have hloop : ((opened? aliased "http://b/s".toList).bind fun s =>
      loop? (resolve s.2 defaultMaxDepth s.1).1).isSome := by decide +kernel
  have hend : ((opened? aliased "http://b/s".toList).bind (hops 4)).map
      (fun b => (b.1.node?.isSome, b.1.node?.bind Json.refText?)) = some (true, none) := by
    decide +kernel
  obtain ⟨chain, hchain⟩ := Option.isSome_iff_exists.mp hloop
  obtain ⟨s, hs, hchain⟩ := Option.bind_eq_some_iff.mp hchain
  rw [hs, Option.bind_some] at hend
  obtain ⟨b, hb, hnode⟩ := Option.map_eq_some_iff.mp hend
  rw [Prod.mk.injEq] at hnode
  exact ⟨s, chain, had_opened hs, loop?_some hchain, b, hb, hnode.1, hnode.2⟩

end JsonReference.RefChain
