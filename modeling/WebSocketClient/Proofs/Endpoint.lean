import WebSocketClient.Endpoint
import WebSocketClient.Proofs.Url.Host

/-!
# What an endpoint says about its text

A text is an endpoint exactly if it is a URL with the right scheme and without a fragment; that the
host might be missing never decides anything, because no web address lacks one.  Everything an
endpoint says can be found in its text: the text has a spelling (`Url.exists_spelling`), and the
scheme, the host and the port are those of the spelling, where a port that is not written is the
default of the scheme.  Whether the default port is written or not makes no difference
(`reading_of_text`).
-/

namespace WebSocketClient

set_option autoImplicit false

open Url (Spelling portNumber?)

/-! ## Fragments -/

/-- A fragment is where the first number sign is. -/
theorem Url.Spelling.WellFormed.fragment_eq_none_iff {spelling : Spelling}
    (formed : spelling.WellFormed) : spelling.fragment = none ↔ '#' ∉ spelling.text := by
  have scheme : '#' ∉ spelling.scheme := fun member => by cases formed.scheme_chars _ member
  have slashes : '#' ∉ spelling.slashes := fun member => by cases formed.slashes _ member
  have authority : '#' ∉ spelling.authority := fun member => by cases formed.authority _ member
  have query : '#' ∉ marked '?' spelling.query := by
    have absent := formed.query
    cases same : spelling.query with
    | none => exact List.not_mem_nil
    | some piece =>
        rw [same] at absent
        exact List.not_mem_cons_of_ne_of_not_mem (by decide) absent
  have whole : '#' ∉ spelling.text ↔ '#' ∉ marked '#' spelling.fragment := by
    simp [Spelling.text, Spelling.tail, scheme, slashes, authority, query, formed.path.2]
  rw [whole]
  cases spelling.fragment <;> simp [marked]

namespace Endpoint

/-! ## The default port -/

/-- The port of an endpoint that has none in its text. -/
def defaultPort (endpoint : Endpoint) : Nat :=
  if endpoint.isSecure then 443 else 80

/-- The port that is the default of the other scheme. -/
def foreignPort (endpoint : Endpoint) : Nat :=
  if endpoint.isSecure then 80 else 443

theorem defaultPort_le (endpoint : Endpoint) : endpoint.defaultPort ≤ 65535 := by
  unfold defaultPort
  split <;> decide

theorem foreignPort_le (endpoint : Endpoint) : endpoint.foreignPort ≤ 65535 := by
  unfold foreignPort
  split <;> decide

theorem foreignPort_ne (endpoint : Endpoint) : endpoint.foreignPort ≠ endpoint.defaultPort := by
  unfold foreignPort defaultPort
  split <;> decide

/-- The ways to write a port piece that stands for the default port: it is left out, or empty, or
the number with any count of zeros in front of it. -/
inductive WritesDefault (endpoint : Endpoint) : Option (List Char) → Prop where
  | leftOut : WritesDefault endpoint none
  | empty : WritesDefault endpoint (some [])
  | written (zeros : Nat) : WritesDefault endpoint
      (some (List.replicate zeros '0' ++ (toString endpoint.defaultPort).toList))

/-- The digits of a number with zeros in front of them. -/
theorem isDigit_of_mem_zeros (zeros number : Nat) :
    ∀ c ∈ List.replicate zeros '0' ++ (toString number).toList, c.isDigit := by
  intro c member
  rcases List.mem_append.mp member with zero | member
  · rw [List.eq_of_mem_replicate zero]
    rfl
  · exact Text.isDigit_of_mem_toString c member

namespace WritesDefault

variable {endpoint : Endpoint} {port : Option (List Char)}

theorem isDigit (writes : endpoint.WritesDefault port) : ∀ c ∈ port.getD [], c.isDigit := by
  cases writes with
  | leftOut => exact List.forall_mem_nil _
  | empty => exact List.forall_mem_nil _
  | written zeros => exact isDigit_of_mem_zeros zeros endpoint.defaultPort

theorem portNumber? (writes : endpoint.WritesDefault port) :
    Url.portNumber? (port.getD []) = none ∨
      Url.portNumber? (port.getD []) = some endpoint.defaultPort := by
  cases writes with
  | leftOut => exact .inl rfl
  | empty => exact .inl rfl
  | written zeros => exact .inr (Url.portNumber?_zeros zeros endpoint.defaultPort)

end WritesDefault

theorem isScheme_iff {scheme : String} :
    isScheme scheme = true ↔ scheme = "ws" ∨ scheme = "wss" := by
  simp [isScheme]

/-- The schemes of endpoints are schemes of web addresses. -/
theorem web_of_isScheme {scheme : String} (known : isScheme scheme) :
    Url.SchemeKind.of scheme = .web := by
  rcases isScheme_iff.mp known with rfl | rfl <;> rfl

/-! ## Reading -/

/-- What a web address with the scheme of an endpoint is like. -/
theorem exists_spelling_of_scheme {text : String} {url : Url} (parsed : Url.parse text = .ok url)
    (known : isScheme url.scheme) :
    ∃ (spelling : Spelling) (host : Url.Host), spelling.WellFormed ∧
      Url.clean text = spelling.text ∧ Url.Host.readWeb spelling.host = .ok host ∧
      url = spelling.toUrl host := by
  have web := web_of_isScheme known
  obtain ⟨spelling, formed, written, name⟩ := Url.exists_spelling parsed web
  rw [← name] at web
  obtain ⟨host, read, -, same⟩ := (Spelling.parse_eq_ok_iff formed written web).mp parsed
  exact ⟨spelling, host, formed, written, read, same⟩

/-- **No web address lacks a host.** -/
theorem hostText_ne {text : String} {url : Url} (parsed : Url.parse text = .ok url)
    (known : isScheme url.scheme) : url.host.isSome ∧ url.hostText ≠ [] := by
  obtain ⟨spelling, host, -, -, read, rfl⟩ := exists_spelling_of_scheme parsed known
  exact ⟨rfl, Url.Host.text_ne_of_readWeb read⟩

/-- **What an endpoint is**: a URL with one of two schemes and without a fragment. -/
theorem parse_eq_ok_iff {text : String} {endpoint : Endpoint} :
    parse text = .ok endpoint ↔
      Url.parse text = .ok endpoint.url ∧ isScheme endpoint.url.scheme ∧
        endpoint.url.fragment = none ∧ endpoint.text = text := by
  obtain ⟨kept, url⟩ := endpoint
  unfold parse
  constructor
  · intro accepted
    split at accepted
    · cases accepted
    · rename_i found parsed
      split at accepted
      · cases accepted
      · rename_i known
        split at accepted
        · cases accepted
        · split at accepted
          · cases accepted
          · rename_i fragment
            cases accepted
            rw [Bool.not_eq_true', Bool.not_eq_false] at known
            rw [Option.not_isSome_iff_eq_none] at fragment
            exact ⟨parsed, known, fragment, rfl⟩
  · rintro ⟨parsed, known, fragment, rfl⟩
    dsimp only at parsed known fragment
    rw [parsed]
    dsimp only
    rw [known, fragment, if_neg (hostText_ne parsed known).2]
    rfl

section

variable {text : String} {endpoint : Endpoint} {spelling : Spelling} {host : Url.Host}

/-- The default port is the one that is left out of the URL. -/
theorem defaultPort?_eq (known : isScheme endpoint.url.scheme) :
    Url.defaultPort? endpoint.url.scheme = some endpoint.defaultPort := by
  obtain ⟨kept, url⟩ := endpoint
  obtain ⟨scheme, username, password, host, port, path, query, fragment⟩ := url
  rcases isScheme_iff.mp known with rfl | rfl <;> rfl

/-- **The port is the written one**, or the default of the scheme. -/
theorem port_eq (known : isScheme endpoint.url.scheme) (read : endpoint.url = spelling.toUrl host) :
    endpoint.port = (portNumber? (spelling.port.getD [])).getD endpoint.defaultPort := by
  have default := defaultPort?_eq known
  have name : endpoint.url.scheme = spelling.schemeName := congrArg Url.scheme read
  have port := congrArg Url.port read
  rw [name] at default
  simp only [Spelling.toUrl, default] at port
  rw [Endpoint.port, port, ← defaultPort]
  by_cases same : portNumber? (spelling.port.getD []) = some endpoint.defaultPort
  · rw [if_pos same, same]
    rfl
  · rw [if_neg same]

/-- **Another port piece changes the port and nothing else.** -/
theorem exists_withPort (known : isScheme endpoint.url.scheme) (formed : spelling.WellFormed)
    (read : Url.Host.readWeb spelling.host = .ok host) (url_eq : endpoint.url = spelling.toUrl host)
    (fragment : endpoint.url.fragment = none) {port : Option (List Char)}
    (digits : ∀ c ∈ port.getD [], c.isDigit)
    (fits : ∀ number ∈ portNumber? (port.getD []), number ≤ 65535) {other : String}
    (written : Url.clean other = (spelling.withPort port).text) :
    ∃ changed, parse other = .ok changed ∧
      changed.port = (portNumber? (port.getD [])).getD endpoint.defaultPort ∧
      changed.url = { endpoint.url with
        port := if portNumber? (port.getD []) = some endpoint.defaultPort then none
          else portNumber? (port.getD []) } := by
  have name : endpoint.url.scheme = spelling.schemeName := congrArg Url.scheme url_eq
  have default := defaultPort?_eq known
  rw [name] at default
  have url : (spelling.withPort port).toUrl host = { endpoint.url with
      port := if portNumber? (port.getD []) = some endpoint.defaultPort then none
        else portNumber? (port.getD []) } := by
    rw [url_eq, ← default]
    rfl
  have web := web_of_isScheme known
  rw [name] at web
  have parsed : Url.parse other = .ok ((spelling.withPort port).toUrl host) :=
    (Spelling.parse_eq_ok_iff (formed.withPort digits) written web).mpr ⟨host, read, fits, rfl⟩
  refine ⟨⟨other, (spelling.withPort port).toUrl host⟩, parse_eq_ok_iff.mpr ?_, ?_, url⟩
  · refine ⟨parsed, ?_, ?_, rfl⟩
    · dsimp only
      rw [url]
      exact known
    · dsimp only
      rw [url]
      exact fragment
  · have same : (Endpoint.mk other ((spelling.withPort port).toUrl host)).defaultPort =
        endpoint.defaultPort := by
      rw [defaultPort, isSecure, url, defaultPort, isSecure]
    have read : (Endpoint.mk other ((spelling.withPort port).toUrl host)).url =
        (spelling.withPort port).toUrl host := rfl
    rw [← same]
    refine port_eq ?_ read
    rw [read, url]
    exact known

/-- **It makes no difference how the default port is written.** -/
theorem exists_of_writesDefault (known : isScheme endpoint.url.scheme)
    (formed : spelling.WellFormed) (read : Url.Host.readWeb spelling.host = .ok host)
    (url_eq : endpoint.url = spelling.toUrl host) (fragment : endpoint.url.fragment = none)
    {port : Option (List Char)} (writes : endpoint.WritesDefault port) {other : String}
    (written : Url.clean other = (spelling.withPort port).text) :
    ∃ changed, parse other = .ok changed ∧ changed.port = endpoint.defaultPort ∧
      changed.url = { endpoint.url with port := none } := by
  have number := writes.portNumber?
  have fits : ∀ number ∈ portNumber? (port.getD []), number ≤ 65535 := by
    intro found member
    rcases number with none_written | default
    · rw [none_written] at member
      cases member
    · rw [default] at member
      cases member
      exact endpoint.defaultPort_le
  obtain ⟨changed, again, port_eq, url⟩ :=
    exists_withPort known formed read url_eq fragment writes.isDigit fits written
  rcases number with none_written | default
  · rw [none_written] at port_eq url
    rw [ite_self] at url
    exact ⟨changed, again, port_eq, url⟩
  · rw [default] at port_eq url
    rw [if_pos rfl] at url
    exact ⟨changed, again, port_eq, url⟩

/-- **The default port of the other scheme is kept.** -/
theorem exists_of_foreignPort (known : isScheme endpoint.url.scheme) (formed : spelling.WellFormed)
    (read : Url.Host.readWeb spelling.host = .ok host) (url_eq : endpoint.url = spelling.toUrl host)
    (fragment : endpoint.url.fragment = none) {zeros : Nat} {other : String}
    (written : Url.clean other = (spelling.withPort
      (some (List.replicate zeros '0' ++ (toString endpoint.foreignPort).toList))).text) :
    ∃ changed, parse other = .ok changed ∧ changed.port = endpoint.foreignPort ∧
      changed.url = { endpoint.url with port := some endpoint.foreignPort } := by
  have digits := isDigit_of_mem_zeros zeros endpoint.foreignPort
  have number := Url.portNumber?_zeros zeros endpoint.foreignPort
  generalize List.replicate zeros '0' ++ (toString endpoint.foreignPort).toList = port
    at digits number written
  have every : ∀ c ∈ (some port).getD [], c.isDigit := digits
  have fits : ∀ n ∈ portNumber? ((some port).getD []), n ≤ 65535 := by
    rw [Option.getD_some, number]
    rintro n ⟨⟩
    exact endpoint.foreignPort_le
  obtain ⟨changed, again, port_eq, url⟩ :=
    exists_withPort known formed read url_eq fragment every fits written
  rw [Option.getD_some, number] at port_eq url
  refine ⟨changed, again, port_eq, url.trans ?_⟩
  rw [if_neg]
  intro same
  exact endpoint.foreignPort_ne (Option.some.inj same)

/-- An endpoint is secure exactly if its scheme is written as `wss`, in letters of any case. -/
theorem isSecure_iff (url_eq : endpoint.url = spelling.toUrl host) :
    endpoint.isSecure ↔ spelling.scheme.map Char.toLower = "wss".toList := by
  have name : endpoint.url.scheme = spelling.schemeName := congrArg Url.scheme url_eq
  rw [isSecure, name, beq_iff_eq, ← String.toList_inj, Spelling.schemeName, String.toList_ofList]

theorem host_ne (parsed : Url.parse text = .ok endpoint.url)
    (known : isScheme endpoint.url.scheme) : endpoint.host ≠ "" := by
  intro empty
  have none_written := congrArg String.toList empty
  rw [Endpoint.host, String.toList_ofList] at none_written
  exact (hostText_ne parsed known).2 none_written

end

/-- **What an endpoint says about its text.**  A text is an endpoint exactly if it is a URL with one
of two schemes and without a fragment, even an empty one; every such URL has a host.  An endpoint
keeps its text, which is read again as the same endpoint.  It is secure exactly if the scheme is
written as `wss` in letters of any case.  Its port is the number that is written, or the default of
the scheme.  The port piece can be exchanged in the text: it makes no difference how the default
port is written, and the default port of the other scheme is kept. -/
theorem reading_of_text (text : String) :
    (∀ endpoint, parse text = .ok endpoint ↔
      Url.parse text = .ok endpoint.url ∧
        (endpoint.url.scheme = "ws" ∨ endpoint.url.scheme = "wss") ∧
        endpoint.url.fragment = none ∧ endpoint.text = text) ∧
    (∀ url, Url.parse text = .ok url → url.scheme = "ws" ∨ url.scheme = "wss" →
      url.host.isSome ∧ url.hostText ≠ [] ∧
        (url.fragment = none ↔ '#' ∉ Url.clean text)) ∧
    ∀ endpoint, parse text = .ok endpoint →
      endpoint.host ≠ "" ∧ endpoint.text = text ∧ parse endpoint.text = .ok endpoint ∧
      ∃ spelling : Spelling, spelling.WellFormed ∧ Url.clean text = spelling.text ∧
        (endpoint.isSecure ↔ spelling.scheme.map Char.toLower = "wss".toList) ∧
        endpoint.port = (portNumber? (spelling.port.getD [])).getD endpoint.defaultPort ∧
        (∀ port : Option (List Char), (∀ c ∈ port.getD [], c.isDigit) →
          Url.clean (String.ofList (spelling.withPort port).text) =
            (spelling.withPort port).text) ∧
        (∀ port other, endpoint.WritesDefault port →
          Url.clean other = (spelling.withPort port).text →
          ∃ changed, parse other = .ok changed ∧ changed.port = endpoint.defaultPort ∧
            changed.url = { endpoint.url with port := none }) ∧
        ∀ zeros other, Url.clean other = (spelling.withPort
            (some (List.replicate zeros '0' ++ (toString endpoint.foreignPort).toList))).text →
          ∃ changed, parse other = .ok changed ∧ changed.port = endpoint.foreignPort ∧
            changed.url = { endpoint.url with port := some endpoint.foreignPort } := by
  refine ⟨?_, ?_, ?_⟩
  · intro endpoint
    rw [← isScheme_iff]
    exact parse_eq_ok_iff
  · intro url parsed scheme
    have known := isScheme_iff.mpr scheme
    obtain ⟨some_host, written_host⟩ := hostText_ne parsed known
    obtain ⟨spelling, host, formed, written, -, rfl⟩ := exists_spelling_of_scheme parsed known
    refine ⟨some_host, written_host, ?_⟩
    rw [written, ← formed.fragment_eq_none_iff]
    exact Option.map_eq_none_iff
  · intro endpoint accepted
    obtain ⟨parsed, known, fragment, text_eq⟩ := parse_eq_ok_iff.mp accepted
    obtain ⟨spelling, host, formed, written, read, url_eq⟩ :=
      exists_spelling_of_scheme parsed known
    refine ⟨host_ne parsed known, text_eq, by rwa [text_eq], spelling, formed, written,
      isSecure_iff url_eq, port_eq known url_eq, ?_, ?_, ?_⟩
    · intro port digits
      have sound := Url.isClean_clean text
      rw [written] at sound
      exact Url.clean_of_isClean (formed.isClean_withPort read sound digits)
    · intro port other writes otherWritten
      exact exists_of_writesDefault known formed read url_eq fragment writes otherWritten
    · intro zeros other otherWritten
      exact exists_of_foreignPort known formed read url_eq fragment otherWritten

example :
    ["ws://h/", "ws:\\\\h:", "WS://h:0080/", " wss:h:80"].map
        (fun text => (parse text).toOption.map port) =
      [some 80, some 80, some 80, some 80] := by
  decide +kernel

end Endpoint

end WebSocketClient
