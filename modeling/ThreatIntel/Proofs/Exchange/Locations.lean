import ThreatIntel.Proofs.Exchange.Sites
import ThreatIntel.Proofs.Url.Joined

/-!
# Requests below a base address

A site is found by the text of its base address, whatever its scheme, and its requests go to this
text with their paths behind it. Where the text is open at its end, every request goes below the
base address; where it has a query or a fragment, no request leaves the path of the base address.
-/

namespace ThreatIntel

open Url

/-- The path of a request begins with the version of the site that is asked. -/
theorem IsClientPath.isVersionedPath
    {path : String}
    (client : IsClientPath path) :
    IsVersionedPath path.toList where
  toIsPlainPath := client.isPlainPath
  versioned := by
    have front : ∀ resource : Resource, resource.endpoint.toList.take 4 = ['/', 'v', '3', '/'] := by
      intro resource
      cases resource <;> decide +kernel
    have endpoint : ∀ resource : Resource, ∃ rest,
        resource.endpoint.toList = '/' :: 'v' :: '3' :: '/' :: rest :=
      fun resource => ⟨_, (List.take_append_drop 4 _).symm.trans (by rw [front]; rfl)⟩
    cases client with
    | endpoint resource => exact ⟨'3', by simp, endpoint resource⟩
    | item resource id =>
        obtain ⟨rest, shape⟩ := endpoint resource
        exact ⟨'3', by simp, rest ++ '/' :: Text.intDigits id.toInt,
          by simp [Resource.itemPath, shape]⟩
    | notifications => exact ⟨'2', by simp, _, rfl⟩

/-- The address of a request goes below a base address: it has the same scheme and machine, the path
of the request behind that of the base address, and the query of the request. -/
structure Url.Follows
    (url address : Url)
    (request : Request) : Prop where
  scheme_eq : url.scheme = address.scheme
  user_eq : url.user = address.user
  host_eq : url.host = address.host
  service_eq : url.service = address.service
  path_eq : url.path = Text.withoutEnd (· == '/') address.path ++ request.path.toList
  query_eq : readPairs? (url.query.getD []) = some request.query

namespace Site

/-- A site goes to the text that locates it, less the slashes at its end. -/
theorem exists_slashes_of_locate
    {base : String}
    {signer : Credentials.Signer}
    {site : Site}
    (located : locate base signer = .ok site) :
    ∃ slashes, base = site.base ++ slashes ∧ ∀ c ∈ slashes.toList, c = '/' := by
  have shorter : site.base = withoutSlashes base := by
    unfold locate at located
    dsimp only at located
    split at located <;> cases located
    rfl
  have parts := Text.withoutEnd_append_takeWhile (· == '/') base.toList
  refine ⟨String.ofList (base.toList.reverse.takeWhile (· == '/')).reverse, ?_, ?_⟩
  · rw [shorter, withoutSlashes, ← String.ofList_append]
    unfold Text.withoutEnd at parts
    rw [parts, String.ofList_toList]
  · intro c member
    rw [String.toList_ofList, List.mem_reverse] at member
    exact beq_iff_eq.mp (List.mem_takeWhile_imp (p := (· == '/')) member)

/-- An address without a query holds the query of a request as it is written. -/
theorem withPairs_of_query_none
    {url : Url}
    (noQuery : url.query = none)
    (request : Request) :
    url.withPairs request.query = { url with query := request.written? } := by
  unfold withPairs Request.written?
  split
  · exact congrArg (fun query => { url with query := query }) noQuery
  · rw [noQuery]
    rfl

/-- The address of a request is what the text of the base address with the path behind it is read
as, with the query of the request. -/
theorem url_of_ofText
    {site : Site}
    {request : Request}
    {url : Url}
    (read : ofText (site.base ++ request.path) = .ok url) :
    site.url request = .ok (url.withPairs request.query) := by
  rw [Site.url, read]

/-- Only an address that is read gives the address of a request, with the same parts. -/
theorem exists_ofText_of_url
    {site : Site}
    {request : Request}
    {url : Url}
    (found : site.url request = .ok url) :
    ∃ longer, ofText (site.base ++ request.path) = .ok longer ∧ longer.host = url.host ∧
      longer.path = url.path := by
  unfold Site.url at found
  split at found
  · next longer read =>
      cases found
      exact ⟨longer, read, (host_withPairs _ _).symm, (path_withPairs _ _).symm⟩
  · cases found

/-- Every request goes below the base address of its site exactly if this is open at its end, and
then it goes below the base address as it was given. -/
theorem url_follows_base
    {base : String}
    {signer : Credentials.Signer}
    {site : Site}
    {address : Url}
    (located : locate base signer = .ok site)
    (read : ofText site.base = .ok address) :
    (∀ request : Request, IsClientPath request.path →
      ((∃ url, site.url request = .ok url ∧ url.Follows address request) ↔
        IsOpen site.base address)) ∧
    (IsOpen site.base address →
      ∃ given, ofText base = .ok given ∧
        ∀ (url : Url) (request : Request), url.Follows given request ↔ url.Follows address request)
    := by
  constructor
  · intro request client
    constructor
    · rintro ⟨url, found, follows⟩
      obtain ⟨longer, below, host, path⟩ := exists_ofText_of_url found
      exact isOpen_of_below read client.isVersionedPath below (host.trans follows.host_eq)
        (path.trans follows.path_eq)
    · intro isOpen
      have below := isOpen.ofText_append read client.isVersionedPath
      rw [isOpen.query_none] at below
      refine ⟨_, (url_of_ofText below).trans (congrArg _ (withPairs_of_query_none rfl request)), ?_⟩
      exact {
        scheme_eq := rfl
        user_eq := rfl
        host_eq := rfl
        service_eq := rfl
        path_eq := rfl
        query_eq := request.readPairs?_written? }
  · intro isOpen
    obtain ⟨slashes, shape, row⟩ := exists_slashes_of_locate located
    obtain ⟨path, given, same⟩ := isOpen.exists_ofText_slashes read row
    refine ⟨_, shape ▸ given, fun url request => ?_⟩
    constructor
    · rintro ⟨scheme, user, host, service, path, query⟩
      exact ⟨scheme, user, host, service, same ▸ path, query⟩
    · rintro ⟨scheme, user, host, service, path, query⟩
      exact ⟨scheme, user, host, service, same ▸ path, query⟩

theorem url_follows_base_of_steps :
    (∃ site given url,
      locate "https://h:8443/a/..//" .none = .ok site ∧
      ofText "https://h:8443/a/..//" = .ok given ∧
      site.url (.get (Resource.itemPath .tag (-5)) [("tql", "a b")]) = .ok url ∧
      url.Follows given (.get (Resource.itemPath .tag (-5)) [("tql", "a b")])) ∧
    ∃ site address,
      locate "https://h/a?k" .none = .ok site ∧
      ofText site.base = .ok address ∧
      ¬∃ url, site.url (.get (Resource.endpoint .tag)) = .ok url ∧
        url.Follows address (.get (Resource.endpoint .tag)) := by
  constructor
  · let address : Url := {
      scheme := "https".toList
      user := []
      host := some (.domain "h".toList)
      service := some 8443
      path := "/".toList
      query := none
      fragment := none }
    have located : locate "https://h:8443/a/..//" .none = .ok ⟨"https://h:8443/a/..", .none⟩ := by
      decide +kernel
    have read : ofText "https://h:8443/a/.." = .ok address := by
      decide +kernel
    have isOpen : IsOpen "https://h:8443/a/.." address := {
      query_none := rfl
      fragment_none := rfl
      keptEnd_nil := by decide +kernel
      ends := by
        have parts : readScheme? (cleaned "https://h:8443/a/..".toList) =
            some ("https".toList, "//h:8443/a/..".toList) := by
          decide +kernel
        have last : "//h:8443/a/..".toList.getLast? = some '.' := by decide
        intro rest named
        obtain ⟨-, rfl⟩ := Prod.mk.inj (Option.some.inj (parts.symm.trans named))
        refine .inl fun c final => ?_
        cases last.symm.trans final
        rfl
      settled := by decide }
    obtain ⟨requests, same⟩ := url_follows_base located read
    obtain ⟨given, found, either⟩ := same isOpen
    obtain ⟨url, goes, follows⟩ :=
      (requests (.get (Resource.itemPath .tag (-5)) [("tql", "a b")]) (.item .tag (-5))).mpr isOpen
    exact ⟨_, given, url, located, found, goes, (either _ _).mpr follows⟩
  · let address : Url := {
      scheme := "https".toList
      user := []
      host := some (.domain "h".toList)
      service := none
      path := "/a".toList
      query := some "k".toList
      fragment := none }
    have located : locate "https://h/a?k" .none = .ok ⟨"https://h/a?k", .none⟩ := by
      decide +kernel
    have read : ofText "https://h/a?k" = .ok address := by
      decide +kernel
    have requests :=
      (url_follows_base located read).1 (.get (Resource.endpoint .tag)) (.endpoint .tag)
    refine ⟨_, address, located, read, fun follows => ?_⟩
    cases (requests.mp follows).query_none

/-- A blank at the end of a base address is dropped where the base address is read, but not where
something stands behind it. -/
theorem url_fails_behind_blank :
    locate "http://h:8443 " .none = .ok ⟨"http://h:8443 ", .none⟩ ∧
      Site.url ⟨"http://h:8443 ", .none⟩ (.get (Resource.endpoint .tag)) =
        .error (.validation "Invalid request path '/v3/tags': invalid port number") := by
  decide +kernel

end Site
end ThreatIntel
