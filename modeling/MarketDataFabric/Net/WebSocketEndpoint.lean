/-
**The endpoint of a WebSocket URL**, `net/websocket.hpp`: the parser of the URL, and the Host header
written from its result.

* `Names`, `Denotes` — what a URL says: a scheme, an authority with or without a port, and a path.
* `parseWebsocketEndpoint_eq_ok_iff` — **the parser accepts exactly what denotes an endpoint**, and
  answers with that endpoint.
* `parse_endpointUrl_iff` — the URL written from an accepted endpoint denotes it again, unless the
  default port was written out behind a host with a colon, which the header drops.
-/

import MarketDataFabric.Library.Scan

namespace MarketDataFabric.Net

open Library

structure WebSocketEndpoint where
  tls : Bool := true
  host : List Char := []
  port : List Char := []
  target : List Char := "/".toList
deriving Repr, DecidableEq

def wssPrefix : List Char := "wss://".toList

def wsPrefix : List Char := "ws://".toList

/-- The end of the parser: the authority, split at its last colon. -/
def parseAuthority (endpoint : WebSocketEndpoint) (authority : List Char) :
    Except String WebSocketEndpoint :=
  if authority = [] then .error "WebSocket URL host 不能为空"
  else match Scan.cutLast ':' authority with
    | some (host, port) =>
        if host = [] ∨ port = [] then .error "WebSocket URL host 或 port 不能为空"
        else .ok { endpoint with host, port }
    | none => .ok { endpoint with host := authority }

/-- The parser behind the scheme, which has set `tls` and the default port. -/
def parseRest (endpoint : WebSocketEndpoint) (rest : List Char) : Except String WebSocketEndpoint :=
  if rest = [] then .error "WebSocket URL host 不能为空"
  else match Scan.cut '/' rest with
    | none => parseAuthority { endpoint with target := "/".toList } rest
    | some (authority, path) => parseAuthority { endpoint with target := '/' :: path } authority

def parseWebsocketEndpoint (url : List Char) : Except String WebSocketEndpoint :=
  if wssPrefix.isPrefixOf url then
    parseRest { tls := true, port := "443".toList } (url.drop wssPrefix.length)
  else if wsPrefix.isPrefixOf url then
    parseRest { tls := false, port := "80".toList } (url.drop wsPrefix.length)
  else .error "WebSocket URL 必须以 ws:// 或 wss:// 开头"

def makeHostHeader (endpoint : WebSocketEndpoint) : List Char :=
  if (endpoint.tls ∧ endpoint.port = "443".toList) ∨
      (¬ endpoint.tls ∧ endpoint.port = "80".toList) then endpoint.host
  else endpoint.host ++ ':' :: endpoint.port

/-! ### What a URL says -/

def scheme (tls : Bool) : List Char := if tls then wssPrefix else wsPrefix

def defaultPort (tls : Bool) : List Char := if tls then "443".toList else "80".toList

/-- The URL of an endpoint, with the Host header as its authority. -/
def endpointUrl (endpoint : WebSocketEndpoint) : List Char :=
  scheme endpoint.tls ++ (makeHostHeader endpoint ++ endpoint.target)

/-- **What an authority names**: a host alone, at the default port, or a host and a port. The port
stands behind the last colon. -/
inductive Names (tls : Bool) : List Char → List Char → List Char → Prop
  | bare {host : List Char} : ':' ∉ host → host ≠ [] → Names tls host host (defaultPort tls)
  | explicit {host port : List Char} : ':' ∉ port → host ≠ [] → port ≠ [] →
      Names tls (host ++ ':' :: port) host port

/-- The target of a path: a missing path is the root. -/
inductive Targets : List Char → List Char → Prop
  | root : Targets [] "/".toList
  | path (rest : List Char) : Targets ('/' :: rest) ('/' :: rest)

theorem Targets.rooted {path target : List Char} (targets : Targets path target) :
    Targets target target := by
  cases targets with
  | root => exact .path []
  | path rest => exact .path rest

/-- **What a URL denotes.** -/
structure Denotes (url : List Char) (endpoint : WebSocketEndpoint) (authority path : List Char) :
    Prop where
  url : url = scheme endpoint.tls ++ (authority ++ path)
  slashless : '/' ∉ authority
  targets : Targets path endpoint.target
  names : Names endpoint.tls authority endpoint.host endpoint.port

/-! ### The parser -/

theorem Names.ne_nil {tls : Bool} {authority host port : List Char}
    (names : Names tls authority host port) : authority ≠ [] := by
  cases names with
  | bare _ nonempty => exact nonempty
  | explicit => exact List.append_ne_nil_of_right_ne_nil _ (List.cons_ne_nil _ _)

/-- **The authority** is split as it names. -/
theorem parseAuthority_eq_ok_iff (tls : Bool) (target authority : List Char)
    (endpoint : WebSocketEndpoint) :
    parseAuthority { tls, port := defaultPort tls, target } authority = .ok endpoint ↔
      endpoint.tls = tls ∧ endpoint.target = target ∧
        Names tls authority endpoint.host endpoint.port := by
  unfold parseAuthority
  constructor
  · intro accepted
    split_ifs at accepted with unnamed
    cases parts : Scan.cutLast ':' authority with
    | none =>
        rw [parts] at accepted
        cases accepted
        exact ⟨rfl, rfl, .bare (Scan.cutLast_eq_none_iff.mp parts) unnamed⟩
    | some pair =>
        simp only [parts] at accepted
        split_ifs at accepted with missing
        cases accepted
        obtain ⟨hosted, ported⟩ := not_or.mp missing
        obtain ⟨split, plain⟩ := Scan.cutLast_eq_some_iff.mp parts
        exact ⟨rfl, rfl, split ▸ .explicit plain hosted ported⟩
  · obtain ⟨answered, host, port, aim⟩ := endpoint
    rintro ⟨rfl, rfl, names⟩
    change Names answered authority host port at names
    rw [if_neg names.ne_nil]
    cases names with
    | bare plain => rw [Scan.cutLast_eq_none_iff.mpr plain]
    | explicit plain hosted ported =>
        rw [Scan.cutLast_eq_some_iff.mpr ⟨rfl, plain⟩]
        exact if_neg (not_or.mpr ⟨hosted, ported⟩)

/-- The rest is cut at its first slash. -/
theorem parseRest_of_targets {authority path target : List Char} (slashless : '/' ∉ authority)
    (targets : Targets path target) (endpoint : WebSocketEndpoint) :
    parseRest endpoint (authority ++ path) = parseAuthority { endpoint with target } authority := by
  unfold parseRest
  by_cases nothing : authority ++ path = []
  · rw [if_pos nothing, parseAuthority, if_pos (List.append_eq_nil_iff.mp nothing).1]
  rw [if_neg nothing]
  cases targets with
  | root => rw [List.append_nil, Scan.cut_eq_none_iff.mpr slashless]
  | path rest => rw [Scan.cut_eq_some_iff.mpr ⟨rfl, slashless⟩]

/-- Every rest is an authority and a path. -/
theorem exists_targets (rest : List Char) :
    ∃ authority path target, rest = authority ++ path ∧ '/' ∉ authority ∧ Targets path target := by
  cases found : Scan.cut '/' rest with
  | none => exact ⟨rest, [], _, (List.append_nil _).symm, Scan.cut_eq_none_iff.mp found, .root⟩
  | some parts =>
      obtain ⟨split, slashless⟩ := Scan.cut_eq_some_iff.mp found
      exact ⟨parts.1, '/' :: parts.2, _, split, slashless, .path _⟩

/-- A URL with a scheme is parsed behind it. -/
theorem parse_scheme (tls : Bool) (rest : List Char) :
    parseWebsocketEndpoint (scheme tls ++ rest) = parseRest { tls, port := defaultPort tls } rest := by
  cases tls with
  | true => rfl
  | false => rfl

/-- **The parser answers what the URL denotes.** -/
theorem parse_eq_ok_iff {url : List Char} {endpoint : WebSocketEndpoint} :
    parseWebsocketEndpoint url = .ok endpoint ↔
      ∃ authority path, Denotes url endpoint authority path := by
  constructor
  · intro accepted
    obtain ⟨tls, rest, rfl⟩ : ∃ tls rest, url = scheme tls ++ rest := by
      unfold parseWebsocketEndpoint at accepted
      split_ifs at accepted with secure plain
      · obtain ⟨rest, split⟩ := List.isPrefixOf_iff_prefix.mp secure
        exact ⟨true, rest, split.symm⟩
      · obtain ⟨rest, split⟩ := List.isPrefixOf_iff_prefix.mp plain
        exact ⟨false, rest, split.symm⟩
    obtain ⟨authority, path, target, rfl, slashless, targets⟩ := exists_targets rest
    rw [parse_scheme, parseRest_of_targets slashless targets, parseAuthority_eq_ok_iff] at accepted
    obtain ⟨rfl, rfl, names⟩ := accepted
    exact ⟨authority, path, rfl, slashless, targets, names⟩
  · rintro ⟨authority, path, rfl, slashless, targets, names⟩
    rw [parse_scheme, parseRest_of_targets slashless targets, parseAuthority_eq_ok_iff]
    exact ⟨rfl, rfl, names⟩

/-! ### The Host header -/

theorem makeHostHeader_eq (endpoint : WebSocketEndpoint) :
    makeHostHeader endpoint =
      if endpoint.port = defaultPort endpoint.tls then endpoint.host
      else endpoint.host ++ ':' :: endpoint.port := by
  obtain ⟨tls, host, port, target⟩ := endpoint
  cases tls <;> simp [makeHostHeader, defaultPort]

theorem Names.host_ne_nil {tls : Bool} {authority host port : List Char}
    (names : Names tls authority host port) : host ≠ [] := by
  cases names with
  | bare _ nonempty => exact nonempty
  | explicit _ nonempty => exact nonempty

/-- A host that is the whole authority has no colon. -/
theorem Names.plain_of_whole {tls : Bool} {authority host port : List Char}
    (names : Names tls authority host port) (whole : authority = host) : ':' ∉ host := by
  cases names with
  | bare plain => exact plain
  | explicit => exact absurd (List.append_right_eq_self.mp whole) (List.cons_ne_nil _ _)

/-- **The header names the endpoint** unless it drops the default port behind a host with a colon. -/
theorem names_header_iff {endpoint : WebSocketEndpoint} {authority : List Char}
    (names : Names endpoint.tls authority endpoint.host endpoint.port) :
    Names endpoint.tls (makeHostHeader endpoint) endpoint.host endpoint.port ↔
      (endpoint.port = defaultPort endpoint.tls → ':' ∉ endpoint.host) := by
  rw [makeHostHeader_eq]
  obtain ⟨tls, host, port, target⟩ := endpoint
  change Names tls authority host port at names
  change Names tls (if port = defaultPort tls then host else host ++ ':' :: port) host port ↔ _
  split_ifs with usual
  · obtain rfl : port = defaultPort tls := usual
    exact ⟨fun again _ => again.plain_of_whole rfl, fun plain => .bare (plain rfl) names.host_ne_nil⟩
  · refine iff_of_true ?_ fun same => absurd same usual
    cases names with
    | bare => exact absurd rfl usual
    | explicit plain hosted ported => exact .explicit plain hosted ported

/-- The header has no slash, since the authority has none. -/
theorem slash_notMem_header {endpoint : WebSocketEndpoint} {authority : List Char}
    (names : Names endpoint.tls authority endpoint.host endpoint.port)
    (slashless : '/' ∉ authority) : '/' ∉ makeHostHeader endpoint := by
  rw [makeHostHeader_eq]
  obtain ⟨tls, host, port, target⟩ := endpoint
  change Names tls authority host port at names
  cases names with
  | bare => rwa [if_pos rfl]
  | explicit =>
      split_ifs with usual
      · exact fun member => slashless (List.mem_append_left _ member)
      · exact slashless

/-- The URL of an accepted endpoint is accepted as the endpoint where its header names it. -/
theorem parse_endpointUrl_iff {url : List Char} {endpoint : WebSocketEndpoint}
    {authority path : List Char} (denotes : Denotes url endpoint authority path) :
    parseWebsocketEndpoint (endpointUrl endpoint) = .ok endpoint ↔
      (endpoint.port = defaultPort endpoint.tls → ':' ∉ endpoint.host) := by
  rw [endpointUrl, parse_scheme,
    parseRest_of_targets (slash_notMem_header denotes.names denotes.slashless)
      denotes.targets.rooted,
    parseAuthority_eq_ok_iff, ← names_header_iff denotes.names]
  exact ⟨fun parsed => parsed.2.2, fun names => ⟨rfl, rfl, names⟩⟩

/-- **The default port, written out behind a host with a colon.** -/
inductive PortBehindColons : List Char → Prop
  | intro (tls : Bool) {host path target : List Char} : '/' ∉ host → ':' ∈ host →
      Targets path target →
      PortBehindColons (scheme tls ++ ((host ++ ':' :: defaultPort tls) ++ path))

/-- Such a URL denotes an endpoint whose header drops the port. -/
theorem portBehindColons_iff {url : List Char} {endpoint : WebSocketEndpoint}
    (accepted : parseWebsocketEndpoint url = .ok endpoint) :
    PortBehindColons url ↔ endpoint.port = defaultPort endpoint.tls ∧ ':' ∈ endpoint.host := by
  constructor
  · intro behind
    cases behind with
    | intro tls slashless colon targets =>
        rename_i host path target
        have unslashed : '/' ∉ host ++ ':' :: defaultPort tls := by
          rw [List.mem_append, not_or]
          exact ⟨slashless, by cases tls <;> decide⟩
        have names : Names tls (host ++ ':' :: defaultPort tls) host (defaultPort tls) :=
          .explicit (by cases tls <;> decide) (List.ne_nil_of_mem colon) (by cases tls <;> decide)
        have same : parseWebsocketEndpoint (scheme tls ++ ((host ++ ':' :: defaultPort tls) ++ path)) =
            .ok { tls, host, port := defaultPort tls, target } :=
          parse_eq_ok_iff.mpr ⟨_, _, rfl, unslashed, targets, names⟩
        rw [accepted] at same
        cases same
        exact ⟨rfl, colon⟩
  · rintro ⟨usual, colon⟩
    obtain ⟨authority, path, rfl, slashless, targets, names⟩ := parse_eq_ok_iff.mp accepted
    obtain ⟨tls, host, port, target⟩ := endpoint
    obtain rfl : port = defaultPort tls := usual
    change Names tls authority host (defaultPort tls) at names
    cases names with
    | bare plain => exact absurd colon plain
    | explicit =>
        exact .intro tls (fun slash => slashless (List.mem_append_left _ slash)) colon targets

/-- **The Host header agrees with the parser**: the URL written from an accepted endpoint is accepted
as the same endpoint, unless the default port was written out behind a host with a colon. -/
theorem endpoint_round_trip_iff {url : List Char} {endpoint : WebSocketEndpoint}
    (accepted : parseWebsocketEndpoint url = .ok endpoint) :
    parseWebsocketEndpoint (endpointUrl endpoint) = .ok endpoint ↔ ¬ PortBehindColons url := by
  obtain ⟨authority, path, denotes⟩ := parse_eq_ok_iff.mp accepted
  rw [parse_endpointUrl_iff denotes, portBehindColons_iff accepted, not_and]

/-- The endpoint of the smoke test. -/
theorem endpoint_round_trip_local :
    parseWebsocketEndpoint (endpointUrl
        ⟨false, "127.0.0.1".toList, "9001".toList, "/feed".toList⟩) =
      .ok ⟨false, "127.0.0.1".toList, "9001".toList, "/feed".toList⟩ := by
  have accepted : parseWebsocketEndpoint "ws://127.0.0.1:9001/feed".toList =
      .ok ⟨false, "127.0.0.1".toList, "9001".toList, "/feed".toList⟩ := by decide
  refine (endpoint_round_trip_iff accepted).mpr fun behind => ?_
  exact absurd ((portBehindColons_iff accepted).mp behind).1 (by decide)

/-- A bracketed host with its default port: the header drops the port, and the second parse takes the
last group of the address for one. -/
theorem endpoint_bracketed :
    parseWebsocketEndpoint "wss://[::1]:443/feed".toList =
        .ok ⟨true, "[::1]".toList, "443".toList, "/feed".toList⟩ ∧
      parseWebsocketEndpoint (endpointUrl
          ⟨true, "[::1]".toList, "443".toList, "/feed".toList⟩) =
        .ok ⟨true, "[:".toList, "1]".toList, "/feed".toList⟩ ∧
      parseWebsocketEndpoint (endpointUrl
          ⟨true, "[::1]".toList, "443".toList, "/feed".toList⟩) ≠
        .ok ⟨true, "[::1]".toList, "443".toList, "/feed".toList⟩ := by
  decide

end MarketDataFabric.Net
