import ThreatIntel.Exchange.Site
import ThreatIntel.Notice
import ThreatIntel.Proofs.Url.Bases
import ThreatIntel.Proofs.Url.Form
import ThreatIntel.Record.Remote

/-!
# Addresses of requests

The address of a request carries the query of the request and nothing else, and what is signed says
all there is to a request: its method, its time, its path and its whole query. The base address may
hold colons, but it is the same for all requests to a site; behind it a path has neither a colon nor
a question mark, and a written query has no colon.
-/

namespace ThreatIntel

open Url

/-- A path of the requests that a client sends. -/
inductive IsClientPath : String → Prop
  | endpoint (resource : Resource) : IsClientPath resource.endpoint
  | item (resource : Resource) (id : Int64) : IsClientPath (resource.itemPath id)
  | notifications : IsClientPath Notifier.path

theorem isStepChar_of_mem_intDigits
    {n : Int}
    {c : Char}
    (member : c ∈ Text.intDigits n) :
    isStepChar c = true := by
  have digit : ∀ n, c ∈ Text.natDigits n → isStepChar c = true := by
    intro n inside
    simp [isStepChar, Char.isAlphanum, Text.isDigit_of_mem_natDigits inside]
  cases n with
  | ofNat n => exact digit n member
  | negSucc n =>
      rcases List.mem_cons.mp member with rfl | inside
      · decide
      · exact digit _ inside

theorem isPlainPath_endpoint (resource : Resource) : IsPlainPath resource.endpoint.toList where
  slashed := by cases resource <;> decide +kernel
  spelled := List.all_eq_true.mp (by cases resource <;> decide +kernel)

/-- The paths of requests are made of plain steps. -/
theorem IsClientPath.isPlainPath
    {path : String}
    (client : IsClientPath path) :
    IsPlainPath path.toList := by
  cases client with
  | endpoint resource => exact isPlainPath_endpoint resource
  | item resource id =>
      obtain ⟨slashed, spelled⟩ := isPlainPath_endpoint resource
      have parts : (resource.itemPath id).toList =
          resource.endpoint.toList ++ '/' :: Text.intDigits id.toInt := by
        simp [Resource.itemPath]
      rw [parts]
      refine ⟨by simp [List.head?_append, slashed], ?_⟩
      intro c member
      rcases List.mem_append.mp member with front | back
      · exact spelled c front
      · rcases List.mem_cons.mp back with rfl | digit
        · decide
        · exact isStepChar_of_mem_intDigits digit
  | notifications => exact ⟨by decide +kernel, List.all_eq_true.mp (by decide +kernel)⟩

/-! ## What is asked -/

namespace Request

/-- The query as it stands in an address, if there is one. -/
def written? (request : Request) : Option (List Char) :=
  if request.query.isEmpty then none else some (writePairs request.query)

/-- The path and the query as they stand in an address. -/
def asked (request : Request) : List Char :=
  match request.written? with
  | none => request.path.toList
  | some query => request.path.toList ++ '?' :: query

theorem written?_eq_none_iff (request : Request) :
    request.written? = none ↔ request.query = [] := by
  unfold written?
  cases request.query <;> simp

/-- The written query is read back. -/
theorem readPairs?_written? (request : Request) :
    readPairs? (request.written?.getD []) = some request.query := by
  unfold written?
  cases request.query with
  | nil => rfl
  | cons pair rest => exact readPairs?_writePairs _

theorem query_eq_of_written?_eq
    {first second : Request}
    (same : first.written? = second.written?) :
    first.query = second.query := by
  have read := congrArg (fun query => readPairs? (Option.getD query [])) same
  simpa only [readPairs?_written?, Option.some.injEq] using read

/-- A path of plain steps ends where the query begins. -/
theorem cutAt_asked
    {request : Request}
    (client : IsClientPath request.path) :
    Text.cutAt '?' request.asked = (request.path.toList, request.written?) := by
  have absent : '?' ∉ request.path.toList := by
    intro member
    exact absurd (client.isPlainPath.spelled _ member) (by decide)
  unfold asked
  cases request.written? with
  | none => exact Text.cutAt_of_notMem absent
  | some query => exact Text.cutAt_append absent query

/-- There is no colon in the path and the query of a request. -/
theorem colon_not_mem_asked
    {request : Request}
    (client : IsClientPath request.path) :
    ':' ∉ request.asked := by
  have path : ':' ∉ request.path.toList := by
    intro member
    exact absurd (client.isPlainPath.spelled _ member) (by decide)
  have query : ':' ∉ writePairs request.query :=
    not_mem_writePairs (by decide) (by decide) request.query
  unfold asked written?
  split
  · exact path
  · next written =>
      split at written
      · cases written
      · cases written
        simp [path, query]

end Request

/-! ## What is signed -/

namespace Credentials.Signer

/-- The signed text tells the target, the method and the time apart, if the target is known up to a
part without colons. -/
theorem message_inj
    {front first second : List Char}
    (firstPlain : ':' ∉ first)
    (secondPlain : ':' ∉ second)
    {method other : Method}
    {time later : Int64}
    (same : message (String.ofList (front ++ first)) method time =
      message (String.ofList (front ++ second)) other later) :
    first = second ∧ method = other ∧ time = later := by
  have noColon : ∀ method : Method, ':' ∉ method.token.toList := by
    intro method
    cases method <;> decide
  have texts : first ++ ':' :: (method.token.toList ++ ':' :: Text.intDigits time.toInt) =
      second ++ ':' :: (other.token.toList ++ ':' :: Text.intDigits later.toInt) := by
    have chars := congrArg String.toList same
    simp only [message, String.toList_append, String.toList_ofList, List.append_assoc] at chars
    simpa using chars
  -- The common front has cancelled out; the parts behind it end at the first colon.
  have cut := congrArg (Text.cutAt ':') texts
  rw [Text.cutAt_append firstPlain, Text.cutAt_append secondPlain] at cut
  obtain ⟨targets, rest⟩ := Prod.mk.inj cut
  have cutRest := congrArg (Text.cutAt ':') (Option.some.inj rest)
  rw [Text.cutAt_append (noColon method), Text.cutAt_append (noColon other)] at cutRest
  obtain ⟨tokens, times⟩ := Prod.mk.inj cutRest
  have methods := congrArg Method.ofToken? (String.toList_inj.mp tokens)
  rw [Method.ofToken?_token, Method.ofToken?_token] at methods
  have numbers := congrArg Text.readInt? (Option.some.inj times)
  rw [Text.readInt?_intDigits, Text.readInt?_intDigits] at numbers
  exact ⟨targets, Option.some.inj methods, Int64.toInt_inj.mp (Option.some.inj numbers)⟩

end Credentials.Signer

/-! ## Sites -/

namespace Site

/-- A site at a base address goes to this address, less the slashes at its end. -/
theorem exists_of_locate
    {base : Base}
    {signer : Credentials.Signer}
    {site : Site}
    (located : locate base.text signer = .ok site) :
    ∃ (shorter : Base) (machine : Authority), site.base = shorter.text ∧
      shorter.machine = .ok machine := by
  have shortened : withoutSlashes base.text =
      (base.upTo _ (Text.withoutEnd_prefix (· == '/') base.path)).text := by
    have stripped := base.withoutEnd_charsBefore base.path
    unfold Text.withoutEnd at stripped
    rw [withoutSlashes, Base.text, String.toList_ofList, stripped]
    rfl
  simp only [locate, shortened] at located
  split at located
  · next reads =>
      cases located
      obtain ⟨machine, accepted⟩ := Base.exists_machine_of_ofText _ reads
      exact ⟨_, machine, rfl, accepted⟩
  · cases located

/-- The address of a request holds the path of the request behind what the base address comes to,
and the query of the request. -/
theorem exists_url
    {base : Base}
    {signer : Credentials.Signer}
    {site : Site}
    (located : locate base.text signer = .ok site) :
    ∃ front, ∀ request : Request, IsClientPath request.path →
      ∃ url, site.url request = .ok url ∧ url.query = request.written? ∧
        url.target = front ++ request.asked := by
  obtain ⟨shorter, machine, address, accepted⟩ := exists_of_locate located
  refine ⟨shorter.keptPath, ?_⟩
  intro request client
  have reads := shorter.ofText_append accepted client.isPlainPath
  unfold Site.url
  rw [address, reads]
  refine ⟨_, rfl, ?_, ?_⟩
  · unfold Request.written? withPairs
    split <;> rfl
  · unfold Request.asked Request.written? withPairs
    cases request.query.isEmpty with
    | true => rfl
    | false => exact List.append_assoc _ _ _

/-- The address of a request carries its query exactly, and the signed text binds the request: texts
signed for a site are the same only for the same method, time, path and query. -/
theorem url_binds_request
    {base : Base}
    {signer : Credentials.Signer}
    {site : Site}
    (located : locate base.text signer = .ok site) :
    (∀ request : Request, IsClientPath request.path →
      ∃ url, site.url request = .ok url ∧ (url.query = none ↔ request.query = []) ∧
        readPairs? (url.query.getD []) = some request.query) ∧
    ∀ (first second : Request) (firstUrl secondUrl : Url) (firstTime secondTime : Int64),
      IsClientPath first.path → IsClientPath second.path →
      site.url first = .ok firstUrl → site.url second = .ok secondUrl →
      Credentials.Signer.message (String.ofList firstUrl.target) first.method firstTime =
        Credentials.Signer.message (String.ofList secondUrl.target) second.method secondTime →
      first.method = second.method ∧ firstTime = secondTime ∧ first.path = second.path ∧
        first.query = second.query := by
  obtain ⟨front, addresses⟩ := exists_url located
  constructor
  · intro request client
    obtain ⟨url, found, query, -⟩ := addresses request client
    refine ⟨url, found, ?_, ?_⟩
    · rw [query]
      exact request.written?_eq_none_iff
    · rw [query]
      exact request.readPairs?_written?
  · intro first second firstUrl secondUrl firstTime secondTime firstClient secondClient firstFound
      secondFound same
    obtain ⟨_, found, -, firstTarget⟩ := addresses first firstClient
    cases firstFound.symm.trans found
    obtain ⟨_, found, -, secondTarget⟩ := addresses second secondClient
    cases secondFound.symm.trans found
    rw [firstTarget, secondTarget] at same
    obtain ⟨asked, method, time⟩ := Credentials.Signer.message_inj
      (Request.colon_not_mem_asked firstClient) (Request.colon_not_mem_asked secondClient) same
    have cut := congrArg (Text.cutAt '?') asked
    rw [Request.cutAt_asked firstClient, Request.cutAt_asked secondClient] at cut
    obtain ⟨path, query⟩ := Prod.mk.inj cut
    exact ⟨method, time, String.toList_inj.mp path, Request.query_eq_of_written?_eq query⟩

theorem url_binds_request_of_colons :
    ∃ site firstUrl secondUrl,
      locate "https://h:8443/a:1/" .none = .ok site ∧
      site.url (.get "/v3/tags" [("tql", "é = \":GET:5?&\""), ("", "")]) = .ok firstUrl ∧
      site.url (.get (Resource.itemPath .tag (-5))) = .ok secondUrl ∧
      readPairs? (firstUrl.query.getD []) = some [("tql", "é = \":GET:5?&\""), ("", "")] ∧
      ∀ firstTime secondTime,
        Credentials.Signer.message (String.ofList firstUrl.target) .get firstTime ≠
          Credentials.Signer.message (String.ofList secondUrl.target) .get secondTime := by
  let base : Base := {
      scheme := "https".toList
      authority := "h:8443".toList
      path := "/a:1/".toList
      scheme_begins := ⟨'h', rfl, by decide⟩
      scheme_spelled := List.all_eq_true.mp (by decide)
      authority_ne_nil := by decide
      authority_spelled := by
        intro c member
        have all : "h:8443".toList.all (fun c => decide
            (0x20 < c.toNat ∧ isSlash (special? "https".toList).isSome c = false)) = true := by
          decide
        exact of_decide_eq_true (List.all_eq_true.mp all c member)
      path_begins := by
        intro c head
        cases head
        rfl
      visible := by
        intro c member
        have all : "h:8443/a:1/".toList.all (fun c =>
            decide (Text.isBlank c = false ∧ c ≠ '?' ∧ c ≠ '#')) = true := by
          decide
        exact of_decide_eq_true (List.all_eq_true.mp all c member) }
  have accepted : (locate base.text .none).toOption.isSome = true := by
    decide +kernel
  obtain ⟨site, located⟩ : ∃ site, locate base.text .none = .ok site := by
    cases found : locate base.text .none with
    | ok site => exact ⟨site, rfl⟩
    | error error =>
        rw [found] at accepted
        cases accepted
  obtain ⟨decodes, binds⟩ := url_binds_request located
  obtain ⟨firstUrl, firstFound, -, read⟩ :=
    decodes (.get "/v3/tags" [("tql", "é = \":GET:5?&\""), ("", "")]) (.endpoint .tag)
  obtain ⟨secondUrl, secondFound, -, -⟩ :=
    decodes (.get (Resource.itemPath .tag (-5))) (.item .tag (-5))
  have spelled : base.text = "https://h:8443/a:1/" := by
    decide +kernel
  refine ⟨site, firstUrl, secondUrl, spelled ▸ located, firstFound, secondFound, read, ?_⟩
  intro firstTime secondTime same
  have bound := binds _ _ firstUrl secondUrl firstTime secondTime (.endpoint .tag) (.item .tag (-5))
    firstFound secondFound same
  exact absurd bound.2.2.2 (by decide)

end Site
end ThreatIntel
