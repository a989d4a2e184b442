import DuplexStream.Proofs.ConfigFile.Values

/-!
# Partial configuration files

A document gives some of the keys, in any order of the sections and of the keys in them, with a
literal of the key's kind for each. It is accepted exactly if its values can be used, and then it
says what is given, and the default for the rest (`ConfigFile.parse_partial`).
-/

namespace DuplexStream

open Toml (Node Entries Document Section Literal Holds)
open SectionKey (Sets setAll setNamed)

namespace ConfigFile

variable (doc : Document)

/-- A document gives some of the keys, each at most once, with literals of their kinds. -/
structure Partial : Prop where
  distinct : doc.Distinct
  allowed : ∀ s ∈ doc, ∃ kinds, sections.lookup s.name.1 = some kinds ∧
    ∀ a ∈ s.assignments, ∃ kind, kinds.lookup a.1.1 = some kind ∧ kind.Allows a.2

/-- The values that are given can be used. -/
structure Acceptable : Prop where
  dropProbability : ∀ l, doc.given "session" "drop_probability" = some l → l.WithinUnit
  writePoll : ∀ l, doc.given "session" "write_poll_ms" = some l → l.whole ≠ 0
  channelBuffer : ∀ l, doc.given "session" "channel_buffer" = some l → l.whole ≠ 0
  maxRetries : ∀ l, doc.given "reconnect" "max_retries" = some l →
    l.whole ≠ 0 ∧ l.whole < 2 ^ 32
  cooldownThreshold : ∀ l, doc.given "reconnect" "cooldown_threshold" = some l →
    l.whole ≠ 0 ∧ l.whole < 2 ^ 32

/-- What a document says about retries. -/
def retryValues : RetryValues :=
  let given := doc.given "reconnect"
  let default := RetryValues.default
  { maxRetries := (given "max_retries").elim default.maxRetries Literal.count
    transportBackoff := (given "transport_backoff_ms").elim default.transportBackoff Literal.word
    otherBackoff := (given "other_backoff_ms").elim default.otherBackoff Literal.word
    cooldownThreshold := (given "cooldown_threshold").elim default.cooldownThreshold Literal.count
    cooldown := (given "cooldown_ms").elim default.cooldown Literal.word }

/-- What a document says about sessions. -/
def sessionValues : SessionValues :=
  let given := doc.given "session"
  let default := SessionValues.default
  { dropProbability := (given "drop_probability").elim default.dropProbability Literal.share
    writePoll := (given "write_poll_ms").elim default.writePoll Literal.word
    channelBuffer := (given "channel_buffer").elim default.channelBuffer Literal.word
    seed := (given "seed").elim default.seed (some ·.word) }

/-- What a document says about connecting. -/
def connectionValues : ConnectionValues :=
  let given := doc.given "channel"
  let default := ConnectionValues.default
  { timeLimit := (given "connect_timeout_ms").elim default.timeLimit Literal.word
    keepAlive := (given "keep_alive").elim default.keepAlive Literal.truth }

/-- The file that a document describes: each key that is given has its value, each other one its
default. -/
def described : ConfigFile :=
  ⟨retryValues doc, sessionValues doc, connectionValues doc⟩

variable {doc} {c : ConfigFile} {name key : String} {l : Literal}

/-- What is given at a key is a literal of the key's kind. -/
theorem Partial.allows (part : Partial doc) (given : doc.given name key = some l)
    {kinds : List (String × ValueKind)} (listed : sections.lookup name = some kinds)
    {kind : ValueKind} (listed' : kinds.lookup key = some kind) : kind.Allows l := by
  obtain ⟨s, mem, rfl, a, inside, rfl, rfl⟩ := Toml.mem_of_given given
  obtain ⟨kinds', same, each⟩ := part.allowed s mem
  obtain rfl := Option.some.inj (listed.symm.trans same)
  obtain ⟨kind', same', allows⟩ := each a inside
  obtain rfl := Option.some.inj (listed'.symm.trans same')
  exact allows

section Values

variable {σ β : Type} {keys : List (SectionKey σ)} {initial : σ} {get : ConfigFile → σ}
  {read : Node → Option β} {field : σ → β} {value : Literal → β}

/-- A field of a section is what its key reads from what is given, or its default. -/
theorem elim_given (outer : Sets ConfigFile.keys name (setAll keys · initial) get)
    (start : get default = initial) (inner : Sets keys key read field)
    (distinct : doc.Distinct) (taken : ofEntries doc.entries = some c) :
    (doc.given name key).elim (some (field initial)) (read ·.node) = some (field (get c)) := by
  have names : doc.entries.names.Nodup := by
    rw [Toml.names_entries]
    exact distinct.names
  have made := outer.elim_get? names taken
  rw [Toml.get?_entries, start] at made
  rw [Document.given]
  cases found : doc.find? (·.name.1 == name) with
  | none =>
      rw [found] at made
      exact congrArg _ (congrArg field (Option.some.inj made))
  | some s =>
      rw [found] at made
      have names : s.entries.names.Nodup := by
        rw [Toml.names_section]
        exact distinct.keys s (List.mem_of_find?_eq_some found)
      have made' := inner.elim_get? names made
      rw [Toml.get?_section] at made'
      rw [Option.bind_some, ← made']
      cases s.assignments.find? (·.1.1 == key) <;> rfl

theorem field_eq (part : Partial doc) (taken : ofEntries doc.entries = some c)
    (outer : Sets ConfigFile.keys name (setAll keys · initial) get)
    (start : get default = initial) {kinds : List (String × ValueKind)}
    (listed : sections.lookup name = some kinds) (inner : Sets keys key read field)
    {kind : ValueKind} (listed' : kinds.lookup key = some kind) (agrees : kind.Agrees read value) :
    field (get c) = (doc.given name key).elim (field initial) value := by
  have made := elim_given outer start inner part.distinct taken
  cases given : doc.given name key with
  | none =>
      rw [given] at made
      exact (Option.some.inj made).symm
  | some l =>
      rw [given] at made
      exact agrees l (part.allows given listed listed') _ made

end Values

section Reading

variable (part : Partial doc) (taken : ofEntries doc.entries = some c)
include part taken

theorem reconnect_eq : c.reconnect = retryValues doc := by
  obtain ⟨maxRetries, transportBackoff, otherBackoff, cooldownThreshold, cooldown⟩ :=
    RetryValues.sets
  have outer := ConfigFile.sets.1
  apply RetryValues.ext
  · exact field_eq part taken outer rfl rfl maxRetries rfl agrees_count
  · exact field_eq part taken outer rfl rfl transportBackoff rfl agrees_word
  · exact field_eq part taken outer rfl rfl otherBackoff rfl agrees_word
  · exact field_eq part taken outer rfl rfl cooldownThreshold rfl agrees_count
  · exact field_eq part taken outer rfl rfl cooldown rfl agrees_word

theorem session_eq : c.session = sessionValues doc := by
  obtain ⟨dropProbability, writePoll, channelBuffer, seed⟩ := SessionValues.sets
  have outer := ConfigFile.sets.2.1
  apply SessionValues.ext
  · exact field_eq part taken outer rfl rfl dropProbability rfl agrees_share
  · exact field_eq part taken outer rfl rfl writePoll rfl agrees_word
  · exact field_eq part taken outer rfl rfl channelBuffer rfl agrees_word
  · exact field_eq part taken outer rfl rfl seed rfl (agrees_word.map some)

theorem channel_eq : c.channel = connectionValues doc := by
  obtain ⟨timeLimit, keepAlive⟩ := ConnectionValues.sets
  have outer := ConfigFile.sets.2.2
  apply ConnectionValues.ext
  · exact field_eq part taken outer rfl rfl timeLimit rfl agrees_word
  · exact field_eq part taken outer rfl rfl keepAlive rfl agrees_truth

/-- A document that is taken is taken for what it describes. -/
theorem eq_described : c = described doc :=
  ConfigFile.ext (reconnect_eq part taken) (session_eq part taken) (channel_eq part taken)

/-- A count that is taken fits its word. -/
theorem lt_of_taken {field : RetryValues → UInt32}
    (inner : Sets RetryValues.keys key Node.count? field)
    (given : doc.given "reconnect" key = some l) (allows : ValueKind.count.Allows l) :
    l.whole < 2 ^ 32 := by
  have made := elim_given ConfigFile.sets.1 rfl inner part.distinct taken
  rw [given, Option.elim_some, count?_node allows] at made
  by_contra wide
  rw [if_neg wide] at made
  cases made

end Reading

/-- The counts that are given fit their words. -/
structure Narrow (doc : Document) : Prop where
  maxRetries : ∀ l, doc.given "reconnect" "max_retries" = some l → l.whole < 2 ^ 32
  cooldownThreshold : ∀ l, doc.given "reconnect" "cooldown_threshold" = some l → l.whole < 2 ^ 32

theorem narrow_of_taken (part : Partial doc) (taken : ofEntries doc.entries = some c) :
    Narrow doc where
  maxRetries _ given :=
    lt_of_taken part taken RetryValues.sets.1 given (part.allows given rfl rfl)
  cooldownThreshold _ given :=
    lt_of_taken part taken RetryValues.sets.2.2.2.1 given (part.allows given rfl rfl)

/-- The keys of counts. -/
theorem count_keys : ∀ p ∈ sections, ∀ q ∈ p.2, q.2 = .count →
    p.1 = "reconnect" ∧ (q.1 = "max_retries" ∨ q.1 = "cooldown_threshold") := by
  decide

/-- The key of a number. -/
theorem share_keys : ∀ p ∈ sections, ∀ q ∈ p.2, q.2 = .share →
    p.1 = "session" ∧ q.1 = "drop_probability" := by
  decide

/-- A document is taken if its literals have values and its counts fit their words. -/
theorem isSome_of_narrow (part : Partial doc) (valued : doc.Valued) (narrow : Narrow doc) :
    (ofEntries doc.entries).isSome := by
  rw [isSome_ofEntries, Document.entries, List.all_map, List.all_eq_true]
  intro s mem
  obtain ⟨kinds, listed, each⟩ := part.allowed s mem
  rw [Function.comp_apply, listed, Option.any_some, readsSection, Section.entries, List.all_map,
    List.all_eq_true]
  intro a inside
  obtain ⟨kind, listed', allows⟩ := each a inside
  rw [Function.comp_apply, listed', Option.any_some]
  refine reads_node allows (valued s mem a inside) ?_
  rintro rfl
  have given := Toml.given_of_mem part.distinct mem inside
  obtain ⟨name, key⟩ := count_keys _ (mem_of_lookup listed) _ (mem_of_lookup listed') rfl
  simp only at name key
  rw [name] at given
  rcases key with key | key
  · exact narrow.maxRetries _ (key ▸ given)
  · exact narrow.cooldownThreshold _ (key ▸ given)

/-- Something holds of what is given or else of the default. -/
theorem elim_iff {α β : Type} {o : Option α} {d : β} {f : α → β} {P : β → Prop} (default : P d) :
    P (o.elim d f) ↔ ∀ a, o = some a → P (f a) := by
  cases o <;> simp [default]

section Checks

variable (part : Partial doc) {kinds : List (String × ValueKind)}
  (listed : sections.lookup name = some kinds)
include part listed

theorem isUnit_given_iff (listed' : kinds.lookup key = some .share) {d : Binary64}
    (default : d.isUnit = true) :
    ((doc.given name key).elim d Literal.share).isUnit = true ↔
      ∀ l, doc.given name key = some l → l.WithinUnit :=
  (elim_iff (P := fun p : Binary64 => p.isUnit = true) default).trans
    (forall₂_congr fun _ given => isUnit_share_iff (part.allows given listed listed'))

theorem word_given_ne_zero_iff (listed' : kinds.lookup key = some .word) {d : UInt64}
    (default : d ≠ 0) :
    (doc.given name key).elim d Literal.word ≠ 0 ↔
      ∀ l, doc.given name key = some l → l.whole ≠ 0 :=
  (elim_iff (P := (· ≠ 0)) default).trans
    (forall₂_congr fun _ given => word_ne_zero_iff (part.allows given listed listed'))

theorem count_given_ne_zero_iff (listed' : kinds.lookup key = some .count) {d : UInt32}
    (default : d ≠ 0) (narrow : ∀ l, doc.given name key = some l → l.whole < 2 ^ 32) :
    (doc.given name key).elim d Literal.count ≠ 0 ↔
      ∀ l, doc.given name key = some l → l.whole ≠ 0 :=
  (elim_iff (P := (· ≠ 0)) default).trans (forall₂_congr fun l given =>
    count_ne_zero_iff (part.allows given listed listed') (narrow l given))

end Checks

/-- The values that are given can be used if the file passes its check and the counts fit. -/
theorem acceptable_iff (part : Partial doc) :
    Acceptable doc ↔ Narrow doc ∧ (described doc).validate = .ok () := by
  have dropProbability : (described doc).session.dropProbability.isUnit = true ↔
      ∀ l, doc.given "session" "drop_probability" = some l → l.WithinUnit :=
    isUnit_given_iff part rfl rfl (by decide)
  have writePoll : (described doc).session.writePoll ≠ 0 ↔
      ∀ l, doc.given "session" "write_poll_ms" = some l → l.whole ≠ 0 :=
    word_given_ne_zero_iff part rfl rfl (by decide)
  have channelBuffer : (described doc).session.channelBuffer ≠ 0 ↔
      ∀ l, doc.given "session" "channel_buffer" = some l → l.whole ≠ 0 :=
    word_given_ne_zero_iff part rfl rfl (by decide)
  have maxRetries (narrow : Narrow doc) : (described doc).reconnect.maxRetries ≠ 0 ↔
      ∀ l, doc.given "reconnect" "max_retries" = some l → l.whole ≠ 0 :=
    count_given_ne_zero_iff part rfl rfl (by decide) narrow.maxRetries
  have cooldownThreshold (narrow : Narrow doc) :
      (described doc).reconnect.cooldownThreshold ≠ 0 ↔
        ∀ l, doc.given "reconnect" "cooldown_threshold" = some l → l.whole ≠ 0 :=
    count_given_ne_zero_iff part rfl rfl (by decide) narrow.cooldownThreshold
  rw [validate_eq_ok_iff, RetryPolicy.validate_eq_ok_iff, dropProbability, writePoll, channelBuffer]
  constructor
  · intro ok
    have narrow : Narrow doc :=
      ⟨fun l given => (ok.maxRetries l given).2, fun l given => (ok.cooldownThreshold l given).2⟩
    exact ⟨narrow, ok.dropProbability, ok.writePoll, ok.channelBuffer,
      (maxRetries narrow).2 fun l given => (ok.maxRetries l given).1,
      (cooldownThreshold narrow).2 fun l given => (ok.cooldownThreshold l given).1⟩
  · rintro ⟨narrow, share, poll, buffer, retries, threshold⟩
    exact ⟨share, poll, buffer,
      fun l given => ⟨(maxRetries narrow).1 retries l given, narrow.maxRetries l given⟩,
      fun l given =>
        ⟨(cooldownThreshold narrow).1 threshold l given, narrow.cooldownThreshold l given⟩⟩

/-- Where all values can be used, all literals have values. -/
theorem valued_of_acceptable (part : Partial doc) (ok : Acceptable doc) : doc.Valued := by
  intro s mem a inside
  obtain ⟨kinds, listed, each⟩ := part.allowed s mem
  obtain ⟨kind, listed', allows⟩ := each a inside
  refine isSome_node? allows ?_
  rintro rfl
  have given := Toml.given_of_mem part.distinct mem inside
  obtain ⟨name, key⟩ := share_keys _ (mem_of_lookup listed) _ (mem_of_lookup listed') rfl
  simp only at name key
  rw [name, key] at given
  exact ok.dropProbability _ given

theorem parse_render_iff (part : Partial doc) :
    parse doc.render = .ok c ↔ Acceptable doc ∧ c = described doc := by
  rw [parse_eq_ok_iff]
  by_cases valued : doc.Valued
  · rw [Toml.parse?_render part.distinct valued, Option.bind_some]
    constructor
    · rintro ⟨taken, valid⟩
      obtain rfl := eq_described part taken
      exact ⟨(acceptable_iff part).2 ⟨narrow_of_taken part taken, valid⟩, rfl⟩
    · rintro ⟨ok, rfl⟩
      obtain ⟨narrow, valid⟩ := (acceptable_iff part).1 ok
      obtain ⟨c, taken⟩ := Option.isSome_iff_exists.1 (isSome_of_narrow part valued narrow)
      exact ⟨eq_described part taken ▸ taken, valid⟩
  · -- a number too large to have a value lies beyond one, so neither side holds
    rw [Toml.parse?_render_eq_none valued]
    constructor
    · rintro ⟨taken, -⟩
      cases taken
    · rintro ⟨ok, -⟩
      exact absurd (valued_of_acceptable part ok) valued

/-- A document with anything else in it is refused, whatever the rest of it is. -/
theorem parse_render_of_unknown {s : Section} (mem : s ∈ doc) {path : List String}
    (named : path ∈ s.places) (unknown : knows path = false) :
    parse doc.render = .error .malformed := by
  by_cases valued : doc.Valued
  · refine parse_of_places (Toml.readStatements_render valued) ?_ unknown
    rw [Toml.places_lines]
    exact List.mem_flatMap.2 ⟨s, mem, named⟩
  · exact parse_eq_malformed (by rw [Toml.parse?_render_eq_none valued, Option.bind_none])

/-- A document that gives some of the keys is accepted exactly if the given probability lies between
zero and one, the given poll, buffer, retries and threshold are not zero, and the two counts fit 32
bits. Then each given key has its value and each other one its default. A document with one more key
or section is refused, whatever else is in it, and so is any text with a line, or with anything in
its tree, that names another place than a section or one of its keys. -/
theorem parse_partial :
    (∀ doc, Partial doc → ∀ c,
      parse doc.render = .ok c ↔ Acceptable doc ∧ c = described doc) ∧
    (∀ doc : Document, ∀ s ∈ doc, ∀ path ∈ s.places, knows path = false →
      parse doc.render = .error .malformed) ∧
    (∀ text lines, Toml.readStatements (Toml.dropMark text.toList) = some lines →
      ∀ path ∈ Toml.places [] lines, knows path = false → parse text = .error .malformed) ∧
    ∀ text es, Toml.parse? text = some es →
      ∀ path, Holds path es → knows path = false → parse text = .error .malformed :=
  ⟨fun _ part _ => parse_render_iff part,
    fun _ _ mem _ named unknown => parse_render_of_unknown mem named unknown,
    fun _ _ read _ named unknown => parse_of_places read named unknown,
    fun _ _ tree _ there unknown => parse_of_holds tree there unknown⟩

/-- Two sections give three keys, and the rest has its defaults. A key or a section that is not
known makes the file malformed. -/
theorem parse_partial_of_two_sections :
    let seven : Literal := .integer (.decimal .none ⟨⟨'7', by decide⟩, []⟩ nofun)
    let half : Literal := .real (.decimal .none ⟨⟨'0', by decide⟩, []⟩ (fun _ => rfl)
      (.fraction ⟨⟨'5', by decide⟩, []⟩ none))
    let session : Section := ⟨⟨"session", by decide +kernel⟩,
      [(⟨"seed", by decide +kernel⟩, seven), (⟨"drop_probability", by decide +kernel⟩, half)]⟩
    let reconnect : Section := ⟨⟨"reconnect", by decide +kernel⟩,
      [(⟨"max_retries", by decide +kernel⟩, seven)]⟩
    let doc : Document := [session, reconnect]
    let key : Document := [⟨session.name, [(⟨"drop_rate", by decide +kernel⟩, half)]⟩, reconnect]
    let more : Document := [session, ⟨⟨"sessions", by decide +kernel⟩, []⟩]
    doc.render = "[session]\nseed = 7\ndrop_probability = 0.5\n[reconnect]\nmax_retries = 7\n" ∧
      parse doc.render = .ok { default with
        reconnect := { RetryValues.default with maxRetries := 7 }
        session := { SessionValues.default with
          seed := some 7, dropProbability := ⟨0x3FE0000000000000⟩ } } ∧
      parse more.render = .error .malformed ∧
      parse "session.drop_rate = 0.2" = .error .malformed ∧
      parse key.render = .error .malformed := by
  intro seven half session reconnect doc key more
  have allows : ValueKind.share.Allows half := trivial
  have part : Partial doc := by
    refine ⟨⟨by decide +kernel, by decide +kernel⟩, ?_⟩
    simp only [doc, session, reconnect, List.forall_mem_cons, List.not_mem_nil, false_implies,
      implies_true, and_true]
    refine ⟨⟨_, rfl, ⟨.word, rfl, ?_⟩, .share, rfl, allows⟩, _, rfl, .count, rfl, ?_⟩
    · exact ⟨by decide, by decide⟩
    · exact ⟨by decide, by decide⟩
  have ok : Acceptable doc := by
    constructor
    · rintro l ⟨⟩
      exact (isUnit_share_iff allows).1 (by decide +kernel)
    · rintro l ⟨⟩
    · rintro l ⟨⟩
    · rintro l ⟨⟩
      decide
    · rintro l ⟨⟩
  refine ⟨by decide +kernel, (parse_partial.1 doc part _).2 ⟨ok, by decide +kernel⟩, ?_, ?_, ?_⟩
  · have last : (⟨⟨"sessions", _⟩, []⟩ : Section) ∈ more :=
      List.mem_cons_of_mem _ List.mem_cons_self
    exact parse_partial.2.1 more _ last ["sessions"] List.mem_cons_self (by decide)
  · have read : (Toml.readStatements (Toml.dropMark "session.drop_rate = 0.2".toList)).isSome := by
      decide +kernel
    exact parse_partial.2.2.1 _ _ (Option.some_get read).symm ["session", "drop_rate"]
      (by decide +kernel +revert) (by decide)
  · have valued : key.Valued := by
      unfold Document.Valued
      decide +kernel
    have tree := Toml.parse?_render ⟨by decide +kernel, by decide +kernel⟩ valued
    have inside : Holds ["drop_rate"] [("drop_rate", half.node)] :=
      Toml.holds_cons_iff.2 ⟨_, rfl, Toml.beneath_nil _⟩
    have there : Holds ["session", "drop_rate"] key.entries :=
      Toml.holds_cons_iff.2 ⟨_, rfl, inside⟩
    exact parse_partial.2.2.2 _ _ tree _ there (by decide)

end ConfigFile

end DuplexStream
