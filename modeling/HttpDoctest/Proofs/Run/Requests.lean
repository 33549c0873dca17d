import HttpDoctest.Proofs.Run.Verdicts
import HttpDoctest.Proofs.Table
import Mathlib.Data.List.ReduceOption

set_option autoImplicit false

/-! # Requests that reach the client

A block hands a request to the client exactly if it can be read, all its trailers compile and all
its placeholders have values in the store that it finds. The request is the block with its
placeholders filled, and with the length of its body added (`sends_iff`). A block that hands
nothing over leaves the client as it is, and a block that does not come to its trailers leaves
the store as it is (`Course.Block.turn`). So what the client receives in a run is told from the
blocks and the stores in front of them (`received_of_runOn`).
-/

namespace HttpDoctest

/-! ## The length of a body -/

theorem Text.byteLength_eq_size (text : List Char) : byteLength text = text.utf8Encode.size := by
  induction text with
  | nil => rfl
  | cons c text ih =>
      rw [byteLength_cons, ih, List.utf8Encode_cons, ByteArray.size_append,
        List.utf8Encode_singleton, List.size_toByteArray, String.length_utf8EncodeChar]

theorem Text.byteLength_toList (s : String) : byteLength s.toList = s.utf8ByteSize := by
  rw [byteLength_eq_size, String.utf8Encode_toList]
  rfl

/-- The header that is added to a request: the length of the body in bytes, if there is a body
and no header of that name, in whatever case. -/
def addedLength (headers : Headers) : Option String → List (String × String)
  | none => []
  | some body =>
      if ∃ name ∈ headers.keys, Text.toAsciiLower name.toList = "content-length".toList then []
      else [("Content-Length", toString body.utf8ByteSize)]

theorem Headers.declares_contentLength (headers : Headers) :
    headers.declares contentLength = true ↔
      ∃ name ∈ headers.keys, Text.toAsciiLower name.toList = "content-length".toList := by
  have hlower : Text.toAsciiLower contentLength.toList = "content-length".toList := by decide
  rw [declares, find?, Option.isSome_map, List.find?_isSome, Table.keys]
  constructor
  · rintro ⟨entry, hentry, heq⟩
    refine ⟨entry.1, List.mem_map_of_mem hentry, ?_⟩
    rw [← hlower]
    exact eq_of_beq heq
  · rintro ⟨name, hname, heq⟩
    obtain ⟨entry, hentry, rfl⟩ := List.mem_map.1 hname
    refine ⟨entry, hentry, ?_⟩
    rw [Text.eqIgnoringAsciiCase, heq, hlower]
    exact beq_self_eq_true _

/-- The length is added behind the headers of the request, and nothing else changes. -/
theorem Request.headers_withContentLength (request : Request) :
    request.withContentLength.headers.entries =
      request.headers.entries ++ addedLength request.headers request.body := by
  unfold withContentLength addedLength
  cases request.body with
  | none => exact (List.append_nil _).symm
  | some body =>
      dsimp only
      by_cases hdeclared : request.headers.declares contentLength = true
      · rw [if_pos hdeclared, if_pos (request.headers.declares_contentLength.1 hdeclared),
          List.append_nil]
      · have hnone := mt request.headers.declares_contentLength.2 hdeclared
        have hkey : contentLength ∉ request.headers.entries.map Prod.fst :=
          fun hmem => hnone ⟨contentLength, hmem, by decide⟩
        rw [if_neg hdeclared, if_neg hnone, Table.entries_put, putEntry_of_not_mem _ hkey,
          Text.byteLength_toList]
        rfl

theorem Request.fields_withContentLength (request : Request) :
    request.withContentLength.method = request.method ∧
      request.withContentLength.url = request.url ∧
      request.withContentLength.body = request.body := by
  unfold withContentLength
  split
  · exact ⟨rfl, rfl, rfl⟩
  · split <;> exact ⟨rfl, rfl, rfl⟩

/-! ## The request of a block -/

/-- Whether `filled` is `text` with its placeholders filled. -/
def FillsText (mode : MissingValue) (store : Store) (text filled : String) : Prop :=
  Template.interpolate mode store text = .ok filled

instance (mode : MissingValue) (store : Store) (text filled : String) :
    Decidable (FillsText mode store text filled) :=
  inferInstanceAs (Decidable (Template.interpolate mode store text = .ok filled))

/-- Whether `filled` is the header `entry` with the placeholders of its name and of its value
filled. -/
structure FillsEntry (mode : MissingValue) (store : Store) (entry filled : String × String) :
    Prop where
  name : FillsText mode store entry.1 filled.1
  value : FillsText mode store entry.2 filled.2

/-- Whether `filled` are the headers of a block with their placeholders filled. Names that are
different in the block may become equal, and then the last one wins. -/
def FillsHeaders (mode : MissingValue) (store : Store) (headers filled : Headers) : Prop :=
  ∃ entries, List.Forall₂ (FillsEntry mode store) headers.entries entries ∧
    Table.LastWins entries filled

/-- Whether `request` is what `block` stands for while the store is as it is: its method, its
placeholders filled, and the length of its body added behind its headers. -/
structure Fills (mode : MissingValue) (store : Store) (block : RequestBlock) (request : Request) :
    Prop where
  method : request.method = block.method
  url : FillsText mode store block.url request.url
  body : Option.Rel (FillsText mode store) block.body request.body
  headers : ∃ filled, FillsHeaders mode store block.headers filled ∧
    request.headers.entries = filled.entries ++ addedLength filled request.body

/-- Whether a block hands `request` to the client if it finds `store`. -/
def Sends (mode : MissingValue) (store : Store) (text : String) (request : Request) : Prop :=
  ∃ block, RequestBlock.ofString text = .ok block ∧
    (∀ trailer ∈ block.trailers, ∃ step, Course.Compiles trailer step) ∧
    Fills mode store block request

section Filled

variable {mode : MissingValue} {store : Store}

theorem Template.interpolate?_eq_ok_iff {text filled : Option String} :
    interpolate? mode store text = .ok filled ↔
      Option.Rel (FillsText mode store) text filled := by
  cases text with
  | none =>
      constructor
      · rintro ⟨⟩
        exact .none
      · rintro ⟨⟩
        rfl
  | some text =>
      rw [interpolate?, bind_eq_ok_iff]
      constructor
      · rintro ⟨filled, htext, ⟨⟩⟩
        exact .some htext
      · rintro (htext | _)
        exact ⟨_, htext, rfl⟩

theorem Template.interpolateEntries_eq_ok_iff {entries filled : List (String × String)} :
    interpolateEntries mode store entries = .ok filled ↔
      List.Forall₂ (FillsEntry mode store) entries filled := by
  induction entries generalizing filled with
  | nil =>
      constructor
      · rintro ⟨⟩
        exact .nil
      · rintro ⟨⟩
        rfl
  | cons entry entries ih =>
      obtain ⟨name, value⟩ := entry
      simp only [interpolateEntries, bind_eq_ok_iff, ih]
      constructor
      · rintro ⟨name, hname, value, hvalue, rest, hrest, ⟨⟩⟩
        exact .cons ⟨hname, hvalue⟩ hrest
      · rintro (_ | ⟨hentry, hrest⟩)
        exact ⟨_, hentry.name, _, hentry.value, _, hrest, rfl⟩

theorem Template.interpolateHeaders_eq_ok_iff {headers filled : Headers} :
    interpolateHeaders mode store headers = .ok filled ↔
      FillsHeaders mode store headers filled := by
  simp only [interpolateHeaders, bind_eq_ok_iff, interpolateEntries_eq_ok_iff]
  constructor
  · rintro ⟨entries, hentries, ⟨⟩⟩
    exact ⟨entries, hentries, Table.lastWins_ofList entries⟩
  · rintro ⟨entries, hentries, hlast⟩
    exact ⟨entries, hentries, congrArg Except.ok hlast.eq_ofList.symm⟩

end Filled

theorem RequestBlock.resolve_eq_ok_iff {block : RequestBlock} {mode : MissingValue} {store : Store}
    {request : Request} :
    block.resolve mode store = .ok request ↔
      request.method = block.method ∧
        Template.interpolate mode store block.url = .ok request.url ∧
        Template.interpolateHeaders mode store block.headers = .ok request.headers ∧
        Template.interpolate? mode store block.body = .ok request.body := by
  simp only [resolve, bind_eq_ok_iff]
  constructor
  · rintro ⟨url, hurl, headers, hheaders, body, hbody, ⟨⟩⟩
    exact ⟨rfl, hurl, hheaders, hbody⟩
  · obtain ⟨method, url, headers, body⟩ := request
    rintro ⟨rfl, hurl, hheaders, hbody⟩
    exact ⟨url, hurl, headers, hheaders, body, hbody, rfl⟩

theorem fills_iff {mode : MissingValue} {store : Store} {block : RequestBlock} {request : Request} :
    Fills mode store block request ↔
      ∃ resolved, block.resolve mode store = .ok resolved ∧
        request = resolved.withContentLength := by
  constructor
  · rintro ⟨hmethod, hurl, hbody, filled, hheaders, hentries⟩
    -- the request as it is before the length of its body is added
    let resolved : Request := ⟨request.method, request.url, filled, request.body⟩
    have hresolved : block.resolve mode store = .ok resolved :=
      RequestBlock.resolve_eq_ok_iff.2 ⟨hmethod, hurl,
        Template.interpolateHeaders_eq_ok_iff.2 hheaders, Template.interpolate?_eq_ok_iff.2 hbody⟩
    refine ⟨resolved, hresolved, ?_⟩
    have hadded : request.headers = resolved.withContentLength.headers :=
      Table.ext (hentries.trans resolved.headers_withContentLength.symm)
    obtain ⟨hmethod', hurl', hbody'⟩ := resolved.fields_withContentLength
    calc request
        = ⟨request.method, request.url, request.headers, request.body⟩ := rfl
      _ = ⟨resolved.withContentLength.method, resolved.withContentLength.url,
            resolved.withContentLength.headers, resolved.withContentLength.body⟩ := by
          rw [hadded, hmethod', hurl', hbody']
      _ = resolved.withContentLength := rfl
  · rintro ⟨resolved, hresolved, rfl⟩
    obtain ⟨hmethod, hurl, hheaders, hbody⟩ := RequestBlock.resolve_eq_ok_iff.1 hresolved
    obtain ⟨hmethod', hurl', hbody'⟩ := resolved.fields_withContentLength
    refine ⟨hmethod'.trans hmethod, hurl' ▸ hurl, ?_, resolved.headers,
      Template.interpolateHeaders_eq_ok_iff.1 hheaders, ?_⟩
    · rw [hbody']
      exact Template.interpolate?_eq_ok_iff.1 hbody
    · rw [hbody']
      exact resolved.headers_withContentLength

theorem Course.exists_compiled_iff {trailers : List Trailer} :
    (∃ steps, List.Forall₂ Compiles trailers steps) ↔
      ∀ trailer ∈ trailers, ∃ step, Compiles trailer step := by
  induction trailers with
  | nil => exact ⟨fun _ => List.forall_mem_nil _, fun _ => ⟨[], .nil⟩⟩
  | cons trailer trailers ih =>
      rw [List.forall_mem_cons, ← ih]
      constructor
      · rintro ⟨_, _ | ⟨hstep, hrest⟩⟩
        exact ⟨⟨_, hstep⟩, _, hrest⟩
      · rintro ⟨⟨step, hstep⟩, steps, hrest⟩
        exact ⟨step :: steps, .cons hstep hrest⟩

/-- A block hands over the request that it is prepared to send, with the length of its body. -/
theorem sends_iff {mode : MissingValue} {store : Store} {text : String} {request : Request} :
    Sends mode store text request ↔
      ∃ block steps resolved, Course.Prepared mode text store block steps resolved ∧
        request = resolved.withContentLength := by
  constructor
  · rintro ⟨block, hread, hcompile, hfills⟩
    obtain ⟨steps, hsteps⟩ := Course.exists_compiled_iff.2 hcompile
    obtain ⟨resolved, hresolved, heq⟩ := fills_iff.1 hfills
    exact ⟨block, steps, resolved, ⟨hread, hsteps, hresolved⟩, heq⟩
  · rintro ⟨block, steps, resolved, hready, heq⟩
    exact ⟨block, hready.read, Course.exists_compiled_iff.1 ⟨steps, hready.compiled⟩,
      fills_iff.2 ⟨resolved, hready.filled, heq⟩⟩

theorem Course.Prepared.sends_iff {mode : MissingValue} {text : String} {store : Store}
    {block : RequestBlock} {steps : List Step} {resolved : Request}
    (h : Prepared mode text store block steps resolved) {request : Request} :
    Sends mode store text request ↔ resolved.withContentLength = request := by
  rw [HttpDoctest.sends_iff]
  constructor
  · rintro ⟨block', steps', resolved', h', rfl⟩
    cases h.read.symm.trans h'.read
    cases h.filled.symm.trans h'.filled
    rfl
  · rintro rfl
    exact ⟨block, steps, resolved, h, rfl⟩

/-! ## What a block does to the client and to the store -/

/-- The request that a block handed to the client, if it came that far. -/
def Outcome.sent (outcome : Outcome) : Option Request :=
  outcome.request.map Request.withContentLength

/-- Whether a block comes to its trailers: it hands over a request, gets a response, and the body
of the response can be decoded. -/
def ReachesTrailers (policy : JsonPolicy) (client : Client) (sent : Option Request) : Prop :=
  ∃ request response json, sent = some request ∧ (client.exchange request).1 = .ok response ∧
    policy.decode response = .ok json

/-- The turn of a block that finds a store and a client, hands over `sent` or nothing, and leaves
another store and another client. -/
structure Turn (mode : MissingValue) (policy : JsonPolicy) (text : String) (store : Store)
    (client : Client) (sent : Option Request) (store' : Store) (client' : Client) : Prop where
  sends : ∀ request, sent = some request ↔ Sends mode store text request
  client_eq : client' = sent.elim client fun request => (client.exchange request).2
  store_eq : ¬ReachesTrailers policy client sent → store' = store

namespace Course

variable {mode : MissingValue} {policy : JsonPolicy}

/-- The course of a block is its turn. -/
theorem Block.turn {text : String} {store store' : Store} {client client' : Client}
    {outcome : Outcome} (h : Block mode policy text store client outcome store' client') :
    Turn mode policy text store client outcome.sent store' client' := by
  -- a block that hands nothing over changes neither the client nor the store
  have hnothing (hnone : ¬∃ block steps resolved,
      Prepared mode text store block steps resolved) (failure : Failure) :
      Turn mode policy text store client (Outcome.sent { failure := some failure }) store
        client := by
    refine ⟨fun request => ⟨(nomatch ·), fun hsends => ?_⟩, rfl, fun _ => rfl⟩
    obtain ⟨block, steps, resolved, hready, -⟩ := sends_iff.1 hsends
    exact absurd ⟨block, steps, resolved, hready⟩ hnone
  cases h with
  | noRequest hread =>
      refine hnothing ?_ _
      rintro ⟨block, steps, resolved, hready⟩
      cases hread.symm.trans hready.read
  | notCompiled hread hsplit hfront hfails =>
      refine hnothing ?_ _
      rintro ⟨block, steps, resolved, hready⟩
      cases hread.symm.trans hready.read
      have hcompiled := mapM_compile_of_compiled hready.compiled
      rw [hsplit, mapM_compile_of_failed hfront hfails] at hcompiled
      cases hcompiled
  | notFilled hread hcompiled hfilled =>
      refine hnothing ?_ _
      rintro ⟨block, steps, resolved, hready⟩
      cases hread.symm.trans hready.read
      cases hfilled.symm.trans hready.filled
  | notAnswered hready hanswer =>
      refine ⟨fun request => ?_, congrArg Prod.snd hanswer.symm, fun _ => rfl⟩
      rw [hready.sends_iff]
      exact Option.some_inj
  | notDecoded hready hanswer hjson =>
      refine ⟨fun request => ?_, congrArg Prod.snd hanswer.symm, fun _ => rfl⟩
      rw [hready.sends_iff]
      exact Option.some_inj
  | carriedOut hready hanswer hjson htrailers =>
      refine ⟨fun request => ?_, congrArg Prod.snd hanswer.symm, fun hearly => ?_⟩
      · rw [hready.sends_iff]
        exact Option.some_inj
      · exact absurd ⟨_, _, _, rfl, congrArg Prod.fst hanswer, hjson⟩ hearly

theorem Block.received {text : String} {store store' : Store} {client client' : Client}
    {outcome : Outcome} (h : Block mode policy text store client outcome store' client') :
    client'.received = client.received ++ outcome.sent.toList := by
  rw [h.turn.client_eq]
  cases outcome.sent with
  | none => exact (List.append_nil _).symm
  | some request => exact List.reverse_cons

/-- The client receives what the blocks hand over, in order. -/
theorem Blocks.received {texts : List String} {store store' : Store} {client client' : Client}
    {outcomes : List Outcome}
    (h : Blocks mode policy store client texts outcomes store' client') :
    client'.received = client.received ++ (outcomes.map Outcome.sent).reduceOption := by
  induction h with
  | nil => exact (List.append_nil _).symm
  | @cons _ _ _ _ _ _ _ _ outcome outcomes hblock _ ih =>
      rw [ih, hblock.received, List.append_assoc, List.map_cons]
      cases outcome.sent with
      | none => rfl
      | some request => rfl

/-- Each block takes its course at what the blocks in front of it leave. -/
theorem Blocks.block {texts : List String} {store store' : Store} {client client' : Client}
    {outcomes : List Outcome} (h : Blocks mode policy store client texts outcomes store' client')
    {number : Nat} (hnumber : number < texts.length) (hnumber' : number < outcomes.length) :
    ∃ before mid after next,
      Blocks mode policy store client (texts.take number) (outcomes.take number) before mid ∧
      Block mode policy texts[number] before mid outcomes[number] after next ∧
      Blocks mode policy store client (texts.take (number + 1)) (outcomes.take (number + 1))
        after next := by
  induction h generalizing number with
  | nil => cases hnumber
  | cons hblock _ ih =>
      cases number with
      | zero => exact ⟨_, _, _, _, .nil _ _, hblock, .cons hblock (.nil _ _)⟩
      | succ number =>
          obtain ⟨before, mid, after, next, hfront, hnext, hback⟩ :=
            ih (Nat.lt_of_succ_lt_succ hnumber) (Nat.lt_of_succ_lt_succ hnumber')
          exact ⟨before, mid, after, next, .cons hblock hfront, hnext, .cons hblock hback⟩

/-- Each block has its turn at what the blocks in front of it leave. -/
theorem Blocks.turn {texts : List String} {store store' : Store} {client client' : Client}
    {outcomes : List Outcome} (h : Blocks mode policy store client texts outcomes store' client')
    {number : Nat} (hnumber : number < texts.length) (hnumber' : number < outcomes.length) :
    ∃ before mid after next,
      Blocks mode policy store client (texts.take number) (outcomes.take number) before mid ∧
      Turn mode policy texts[number] before mid outcomes[number].sent after next ∧
      Blocks mode policy store client (texts.take (number + 1)) (outcomes.take (number + 1))
        after next := by
  obtain ⟨before, mid, after, next, hfront, hblock, hback⟩ := h.block hnumber hnumber'
  exact ⟨before, mid, after, next, hfront, hblock.turn, hback⟩

end Course

namespace Runner

/-- A run leaves the store and the client that its course leaves. -/
theorem runOn_leaves {runner : Runner} (h : runner.TakesAll) {texts : List String}
    {outcomes : List Outcome} {store : Store} {client : Client}
    (hcourse : Course.Blocks runner.missing runner.jsonPolicy runner.store runner.client texts
      outcomes store client) :
    (runOn runner texts).2.store = store ∧ (runOn runner texts).2.client = client := by
  rw [runOn_of_blocks h hcourse]
  exact ⟨rfl, rfl⟩

/-- **What the client receives.** Where no console fails, the client receives in order what the
blocks hand over, each at most one request. A block hands over the request that it sends at the
store left by the blocks in front of it, it changes the client by that exchange only, and unless
it comes to its trailers it leaves the store as it is. -/
theorem received_of_runOn {runner : Runner} (h : runner.TakesAll) (texts : List String) :
    ∃ sent : List (Option Request), sent.length = texts.length ∧
      (runOn runner texts).2.client.received = runner.client.received ++ sent.reduceOption ∧
      ∀ (number : Nat) (hnumber : number < texts.length) (hnumber' : number < sent.length),
        let before := (runOn runner (texts.take number)).2
        let after := (runOn runner (texts.take (number + 1))).2
        Turn runner.missing runner.jsonPolicy texts[number] before.store before.client
          sent[number] after.store after.client := by
  obtain ⟨outcomes, store, client, hcourse⟩ :=
    Course.exists_blocks runner.missing runner.jsonPolicy runner.store runner.client texts
  refine ⟨outcomes.map Outcome.sent, ?_, ?_, ?_⟩
  · rw [List.length_map, hcourse.length_eq]
  · rw [(runOn_leaves h hcourse).2, hcourse.received]
  · intro number hnumber hnumber' before after
    rw [List.length_map] at hnumber'
    obtain ⟨_, _, _, _, hfront, hturn, hback⟩ := hcourse.turn hnumber hnumber'
    obtain ⟨hstore, hclient⟩ := runOn_leaves h hfront
    obtain ⟨hstore', hclient'⟩ := runOn_leaves h hback
    rw [hstore, hclient, hstore', hclient', List.getElem_map]
    exact hturn

/-- A run of two blocks, the second of which is no request: the client receives the first, with its
placeholders filled and the length of its body added. The name of its second header becomes that of
the first, which gets another value. -/
theorem received_of_request_and_prose :
    let runner := start { seed := .ofList [("id", .string "7"), ("name", .string "A")] }
      (.scripted [] ⟨200, .empty, ""⟩) .unlimited .unlimited
    let texts := ["POST http://a/{{id}}\nA: b\n{{name}}: {{id}}\n\nü{{id}}\n", "no request"]
    let request : Request :=
      ⟨.post, "http://a/7", ⟨[("A", "7"), ("Content-Length", "3")], by decide⟩, some "ü7"⟩
    runner.TakesAll ∧ (runOn runner texts).2.client.received = [request] := by
  intro runner texts request
  have h : runner.TakesAll := ⟨Sink.takesAll_unlimited, Sink.takesAll_unlimited⟩
  obtain ⟨sent, hlength, hreceived, hturn⟩ := received_of_runOn h texts
  obtain ⟨first, second, rfl⟩ := List.length_eq_two.1 hlength
  -- the first block is ready to be sent, with the length of its body
  have hstore : (runOn runner []).2.store = runner.store :=
    (runOn_leaves h (.nil runner.store runner.client)).1
  let block : RequestBlock := ⟨.post, "http://a/{{id}}", ⟨[("A", "b"), ("{{name}}", "{{id}}")],
    by decide⟩, some "ü{{id}}", []⟩
  have hread : RequestBlock.ofString texts[0] = .ok block := by decide +kernel
  have hentries : List.Forall₂ (FillsEntry .lenient runner.store) block.headers.entries
      [("A", "b"), ("A", "7")] :=
    .cons ⟨by decide +kernel, by decide +kernel⟩
      (.cons ⟨by decide +kernel, by decide +kernel⟩ .nil)
  have hfills : Fills .lenient runner.store block request :=
    ⟨rfl, by decide +kernel, .some (by decide +kernel), .ofList [("A", "b"), ("A", "7")],
      ⟨_, hentries, Table.lastWins_ofList _⟩, by decide +kernel⟩
  have hfirst : first = some request := by
    refine ((hturn 0 (by decide) Nat.zero_lt_two).sends request).2 ?_
    rw [List.take_zero, hstore]
    exact ⟨block, hread, List.forall_mem_nil _, hfills⟩
  -- the second is no request
  have hsecond : second = none := by
    cases hsome : second with
    | none => rfl
    | some other =>
        obtain ⟨block, hread, -⟩ := ((hturn 1 (by decide) Nat.one_lt_two).sends other).1 hsome
        have herror : RequestBlock.ofString "no request" = .error _ := rfl
        cases hread.symm.trans herror
  rw [hfirst, hsecond] at hreceived
  exact ⟨h, hreceived⟩

end Runner

end HttpDoctest
