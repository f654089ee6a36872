import RequestPipeline.Proofs.Http.Header
import RequestPipeline.Proofs.Text.Parts
import RequestPipeline.Socket.Upgrade

/-!
# Lists on several lines

A field that lists tokens may be sent on one line or on several.  `SameTokens` says of two requests that they list the
same tokens in one field, in the same order, and `Resplit` that they differ in nothing but the lines of the two fields
of a handshake that are lists.

* `offered_eq`            the subprotocols that are offered are the tokens of all lines;
* `acceptKey_eq_ok_iff`   of the tokens that ask for an upgrade only those on the first line count.

`upgrade_by_first_line`: **the subprotocols do not depend on the lines, and whether a request is recognised depends on
them exactly as far as the token `upgrade` is on the first one.**
-/

namespace RequestPipeline.Socket

/-! ## tokens -/

/-- whether one of some tokens is `upgrade`, in whatever case -/
def NamesUpgrade (tokens : List String) : Prop := ∃ t ∈ tokens, Text.sameAscii t "upgrade" = true

/-- an empty token is not `upgrade`, so that it does not matter that empty tokens are passed over -/
theorem hasUpgrade_iff {line : String} : hasUpgrade line = true ↔ NamesUpgrade (Text.segments line) := by
  have hempty : Text.sameAscii "" "upgrade" = false := rfl
  unfold hasUpgrade NamesUpgrade Text.segments Text.splitText
  rw [Text.split_eq_splitOn]
  simp only [List.any_map, List.any_eq_true, Function.comp_apply, List.mem_filter, List.mem_map, decide_eq_true_eq]
  constructor
  · rintro ⟨p, hp, h⟩
    refine ⟨_, ⟨⟨p, hp, rfl⟩, fun he => ?_⟩, h⟩
    rw [he, hempty] at h
    cases h
  · rintro ⟨_, ⟨⟨p, hp, rfl⟩, -⟩, h⟩
    exact ⟨p, hp, h⟩

/-- whether the first of some lines has the token `upgrade` -/
def FirstNames (lines : List String) : Prop := ∃ line, lines.head? = some line ∧ NamesUpgrade (Text.segments line)

theorem namesUpgrade_of_first {lines : List String} (h : FirstNames lines) :
    NamesUpgrade (lines.flatMap Text.segments) := by
  obtain ⟨line, hl, t, ht, hu⟩ := h
  exact ⟨t, List.mem_flatMap.mpr ⟨line, List.mem_of_head? hl, ht⟩, hu⟩

/-! ## lines -/

/-- whether the values of a field are these texts -/
def Lines (headers : Headers) (name : String) (lines : List String) : Prop :=
  (headers.getAll name).map headerText? = lines.map some

section
variable {headers : Headers} {name : String} {lines : List String}

theorem text?_of_lines (h : Lines headers name lines) : headers.text? name = lines.head? := by
  have hh := congrArg List.head? h
  rw [List.head?_map, List.head?_map] at hh
  unfold Headers.text?
  rw [Headers.get?_eq_head?]
  cases hv : (headers.getAll name).head? <;> cases hl : lines.head? <;> simp_all

theorem texts_of_lines (h : Lines headers name lines) : (headers.getAll name).filterMap headerText? = lines := by
  have hf : ∀ values : List Bytes, values.filterMap headerText? = (values.map headerText?).filterMap id := fun values => by
    rw [List.filterMap_map]
    rfl
  rw [hf, h, List.filterMap_map]
  exact List.filterMap_some

/-- the subprotocols that are offered are the tokens of all lines -/
theorem offered_eq (h : Lines headers "sec-websocket-protocol" lines) :
    offered headers = lines.flatMap Text.segments := by
  unfold offered
  rw [texts_of_lines h]
  exact congrArg (lines.flatMap ·) (funext Text.commaParts_eq)

end

/-! ## recognised requests -/

/-- whether the other fields of a request ask for a WebSocket, with a key -/
structure Proposes (headers : Headers) (key : String) : Prop where
  upgrade : ∃ v, headers.text? "upgrade" = some v ∧ Text.sameAscii v "websocket" = true
  key : headers.text? "sec-websocket-key" = some key ∧ key ≠ ""
  version : headers.text? "sec-websocket-version" = some "13"

/-- a request is recognised by the first value of each of four fields -/
theorem acceptKey_eq_ok_iff {headers : Headers} {k : String} : acceptKey headers = .ok k ↔
    (∃ line, headers.text? "connection" = some line ∧ NamesUpgrade (Text.segments line)) ∧
      ∃ key, Proposes headers key ∧ k = proof key := by
  have hconnection : (headers.text? "connection").any hasUpgrade = true ↔
      ∃ line, headers.text? "connection" = some line ∧ NamesUpgrade (Text.segments line) := by
    simp only [Option.any_eq_true, hasUpgrade_iff]
  have hupgrade : ((headers.text? "upgrade").any fun v => Text.sameAscii v "websocket") = true ↔
      ∃ v, headers.text? "upgrade" = some v ∧ Text.sameAscii v "websocket" = true := Option.any_eq_true _ _
  have hkey : ∀ key, (headers.text? "sec-websocket-key").filter (fun k => ¬ k.isEmpty) = some key ↔
      headers.text? "sec-websocket-key" = some key ∧ key ≠ "" := fun key => by
    rw [Option.filter_eq_some_iff]
    simp
  rw [← hconnection]
  unfold acceptKey
  split
  · rename_i hn
    exact ⟨nofun, fun h => absurd h.1 hn⟩
  rename_i hc
  split
  · rename_i hn
    exact ⟨nofun, fun ⟨_, _, h, _⟩ => absurd (hupgrade.mpr h.upgrade) hn⟩
  rename_i hu
  split
  · rename_i hn
    refine ⟨nofun, fun ⟨_, key, h, _⟩ => ?_⟩
    cases hn.symm.trans ((hkey key).mpr h.key)
  rename_i key hk
  split
  · rename_i hn
    exact ⟨nofun, fun ⟨_, _, h, _⟩ => absurd h.version hn⟩
  rename_i hv
  have hproposes : Proposes headers key :=
    ⟨hupgrade.mp (Decidable.not_not.mp hu), (hkey key).mp hk, Decidable.not_not.mp hv⟩
  constructor
  · intro h
    exact ⟨Decidable.not_not.mp hc, key, hproposes, (Except.ok.inj h).symm⟩
  · rintro ⟨-, other, h, rfl⟩
    cases h.key.1.symm.trans hproposes.key.1
    rfl

/-! ## other lines -/

/-- two requests that list the same tokens in one field, each on its lines -/
structure SameTokens (name : String) (hs hs' : Headers) (lines lines' : List String) : Prop where
  left : Lines hs name lines
  right : Lines hs' name lines'
  tokens : lines.flatMap Text.segments = lines'.flatMap Text.segments

/-- two requests that differ at most in how the two lists of a handshake are split into lines -/
structure Resplit (hs hs' : Headers) (lines lines' : List String) : Prop where
  connection : SameTokens "connection" hs hs' lines lines'
  protocols : ∃ ps ps', SameTokens "sec-websocket-protocol" hs hs' ps ps'
  others : ∀ name, name ≠ "connection" → name ≠ "sec-websocket-protocol" → hs.getAll name = hs'.getAll name

section
variable {hs hs' : Headers} {lines lines' : List String}

theorem Resplit.symm (h : Resplit hs hs' lines lines') : Resplit hs' hs lines' lines where
  connection := ⟨h.connection.right, h.connection.left, h.connection.tokens.symm⟩
  protocols := by
    obtain ⟨ps, ps', hp⟩ := h.protocols
    exact ⟨ps', ps, hp.right, hp.left, hp.tokens.symm⟩
  others name hc hp := (h.others name hc hp).symm

theorem Resplit.proposes (h : Resplit hs hs' lines lines') {key : String} (hk : Proposes hs key) : Proposes hs' key := by
  have same : ∀ name, name ≠ "connection" → name ≠ "sec-websocket-protocol" → hs'.text? name = hs.text? name :=
    fun name hc hp => Headers.text?_congr (h.others name hc hp).symm
  obtain ⟨upgrade, ⟨key, nonempty⟩, version⟩ := hk
  refine ⟨?_, ⟨?_, nonempty⟩, ?_⟩
  · rwa [same "upgrade" (by decide) (by decide)]
  · rwa [same "sec-websocket-key" (by decide) (by decide)]
  · rwa [same "sec-websocket-version" (by decide) (by decide)]

theorem Resplit.proposes_iff (h : Resplit hs hs' lines lines') {key : String} : Proposes hs' key ↔ Proposes hs key :=
  ⟨h.symm.proposes, h.proposes⟩

theorem acceptKey_of_lines (h : Lines hs "connection" lines) {k : String} : acceptKey hs = .ok k ↔
    FirstNames lines ∧ ∃ key, Proposes hs key ∧ k = proof key := by
  rw [acceptKey_eq_ok_iff, text?_of_lines h]
  rfl

/-- two requests are recognised alike, and with one key, if the same keys are given for them -/
theorem toOption_acceptKey_eq_iff : (acceptKey hs').toOption = (acceptKey hs).toOption ↔
    ∀ k, acceptKey hs' = .ok k ↔ acceptKey hs = .ok k := by
  have hsome : ∀ (x : Except SocketFault String) (k : String), x.toOption = some k ↔ x = .ok k := by
    intro x k
    cases x <;> simp [Except.toOption]
  rw [Option.ext_iff]
  simp only [hsome]

theorem Resplit.toOption_eq_iff (h : Resplit hs hs' lines lines') :
    (acceptKey hs').toOption = (acceptKey hs).toOption ↔
      ((FirstNames lines' ↔ FirstNames lines) ∨ ∀ key, ¬ Proposes hs key) := by
  have left : ∀ {k}, acceptKey hs = .ok k ↔ _ := acceptKey_of_lines h.connection.left
  have right : ∀ {k}, acceptKey hs' = .ok k ↔ _ := acceptKey_of_lines h.connection.right
  rw [toOption_acceptKey_eq_iff]
  constructor
  · intro heq
    by_cases hp : ∃ key, Proposes hs key
    · obtain ⟨key, hk⟩ := hp
      have hfirst := heq (proof key)
      rw [left, right] at hfirst
      exact .inl ⟨fun hf => (hfirst.mp ⟨hf, key, h.proposes hk, rfl⟩).1, fun hf => (hfirst.mpr ⟨hf, key, hk, rfl⟩).1⟩
    · exact .inr (not_exists.mp hp)
  · rintro (hfirst | hnone) k
    · rw [left, right, hfirst]
      simp only [h.proposes_iff]
    · rw [left, right]
      simp only [h.proposes_iff]
      exact ⟨fun ⟨_, key, hk, _⟩ => absurd hk (hnone key), fun ⟨_, key, hk, _⟩ => absurd hk (hnone key)⟩

/-- on one line every token counts -/
theorem Resplit.firstNames (h : Resplit hs hs' lines lines') (one : lines.length = 1) (hf : FirstNames lines') :
    FirstNames lines := by
  obtain ⟨line, rfl⟩ := List.length_eq_one_iff.mp one
  have htokens := namesUpgrade_of_first hf
  rw [← h.connection.tokens, List.flatMap_singleton] at htokens
  exact ⟨line, rfl, htokens⟩

/-- **The token `upgrade` counts on the first line alone.**  Of two requests that list the same tokens on other lines the
same subprotocols are offered.  They are recognised alike, and with the same key, exactly if the first line of both has
the token `upgrade`, or of none, or if they do not ask for a WebSocket otherwise; and so a request with one line that is
recognised stays so exactly if the token comes to the first of its new lines. -/
theorem upgrade_by_first_line (h : Resplit hs hs' lines lines') :
    offered hs' = offered hs ∧
      (∀ k, acceptKey hs = .ok k ↔ FirstNames lines ∧ ∃ key, Proposes hs key ∧ k = proof key) ∧
      ((acceptKey hs').toOption = (acceptKey hs).toOption ↔
        ((FirstNames lines' ↔ FirstNames lines) ∨ ∀ key, ¬ Proposes hs key)) ∧
      (lines.length = 1 → ((acceptKey hs').toOption = (acceptKey hs).toOption ↔
        FirstNames lines' ∨ ∀ k, acceptKey hs ≠ .ok k)) := by
  have recognised : ∀ k, acceptKey hs = .ok k ↔ FirstNames lines ∧ ∃ key, Proposes hs key ∧ k = proof key :=
    fun _ => acceptKey_of_lines h.connection.left
  refine ⟨?_, recognised, h.toOption_eq_iff, fun one => ?_⟩
  · obtain ⟨ps, ps', hp⟩ := h.protocols
    rw [offered_eq hp.right, offered_eq hp.left, hp.tokens]
  · rw [h.toOption_eq_iff]
    constructor
    · rintro (hfirst | hnone)
      · refine or_iff_not_imp_left.mpr fun hn k hk => hn (hfirst.mpr ((recognised k).mp hk).1)
      · refine .inr fun k hk => ?_
        obtain ⟨-, key, hp, -⟩ := (recognised k).mp hk
        exact hnone key hp
    · rintro (hf | hrefused)
      · exact .inl ⟨h.firstNames one, fun _ => hf⟩
      · by_cases hl : FirstNames lines
        · exact .inr fun key hp => hrefused _ ((recognised _).mpr ⟨hl, key, hp, rfl⟩)
        · exact .inl ⟨fun hf => h.firstNames one hf, fun hn => absurd hn hl⟩

end

/-- a request for a WebSocket whose lists stand on certain lines -/
def listing (connection protocols : List String) : Headers :=
  connection.map (fun line => ("connection", Utf8.ofText line)) ++
    protocols.map (fun line => ("sec-websocket-protocol", Utf8.ofText line)) ++
    [("upgrade", Utf8.ofText "websocket"), ("sec-websocket-key", Utf8.ofText "dGhlIHNhbXBsZSBub25jZQ=="),
      ("sec-websocket-version", Utf8.ofText "13")]

theorem getAll_listing {name : String} (hc : name ≠ "connection") (hp : name ≠ "sec-websocket-protocol")
    (connection protocols : List String) :
    (listing connection protocols).getAll name = (listing [] []).getAll name := by
  have hnone : ∀ {other : String}, name ≠ other → ∀ lines : List String,
      ((lines.map fun line => (other, Utf8.ofText line)).filter fun field => field.1 == name) = [] := by
    intro other ho lines
    rw [List.filter_eq_nil_iff, List.forall_mem_map]
    exact fun _ _ => by simpa using Ne.symm ho
  unfold listing Headers.getAll
  rw [List.filter_append, List.filter_append, hnone hc, hnone hp]
  rfl

/-- the tokens `keep-alive` and `Upgrade` on one line, and on two -/
theorem resplit_listing : Resplit (listing ["keep-alive, Upgrade"] ["chat, json", "xml"])
    (listing ["keep-alive", "Upgrade"] ["chat", "json ,, xml"]) ["keep-alive, Upgrade"] ["keep-alive", "Upgrade"] where
  connection := ⟨rfl, rfl, by decide⟩
  protocols := ⟨["chat, json", "xml"], ["chat", "json ,, xml"], rfl, rfl, by decide⟩
  others _ hc hp := (getAll_listing hc hp _ _).trans (getAll_listing hc hp _ _).symm

theorem upgrade_by_first_line_listing :
    let hs := listing ["keep-alive, Upgrade"] ["chat, json", "xml"]
    let hs' := listing ["keep-alive", "Upgrade"] ["chat", "json ,, xml"]
    Resplit hs hs' ["keep-alive, Upgrade"] ["keep-alive", "Upgrade"] ∧ offered hs' = ["chat", "json", "xml"] ∧
      acceptKey hs = .ok (proof "dGhlIHNhbXBsZSBub25jZQ==") ∧ (acceptKey hs').toOption ≠ (acceptKey hs).toOption := by
  intro hs hs'
  obtain ⟨hoffered, hrecognised, -, hone⟩ := upgrade_by_first_line resplit_listing
  have hproposes : Proposes hs "dGhlIHNhbXBsZSBub25jZQ==" := ⟨⟨"websocket", rfl, rfl⟩, ⟨rfl, by decide⟩, rfl⟩
  have haccepted : acceptKey hs = .ok (proof "dGhlIHNhbXBsZSBub25jZQ==") :=
    (hrecognised _).mpr ⟨⟨_, rfl, "Upgrade", by decide, rfl⟩, _, hproposes, rfl⟩
  refine ⟨resplit_listing, hoffered, haccepted, fun heq => ?_⟩
  rcases (hone rfl).mp heq with ⟨line, hl, t, ht, hu⟩ | hn
  · cases hl
    have hkeep : t = "keep-alive" := List.mem_singleton.mp ht
    rw [hkeep] at hu
    cases hu
  · exact hn _ haccepted

/-- a request that lists `upgrade` on its second line is refused, and one that lists the same on one line is not -/
theorem second_line_refused :
    let one := listing ["keep-alive, Upgrade"] []
    let two := listing ["keep-alive", "Upgrade"] []
    Resplit one two ["keep-alive, Upgrade"] ["keep-alive", "Upgrade"] ∧
      acceptKey one = .ok (proof "dGhlIHNhbXBsZSBub25jZQ==") ∧
      acceptKey two = .error (.notUpgrade "missing Connection: Upgrade header") := by
  refine ⟨⟨⟨rfl, rfl, by decide⟩, ⟨[], [], rfl, rfl, rfl⟩, fun _ hc hp => ?_⟩, rfl, rfl⟩
  exact (getAll_listing hc hp _ _).trans (getAll_listing hc hp _ _).symm

end RequestPipeline.Socket
