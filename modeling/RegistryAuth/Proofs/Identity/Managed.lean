import RegistryAuth.Identity.Managed
import RegistryAuth.Proofs.Http.Hosts
import RegistryAuth.Proofs.Url.Form

/-!
# What the node is asked

A request to the metadata endpoint of the node goes where the endpoint leads: only the query is written
anew.  It holds the pairs that the endpoint had before and then three more, whatever characters the
identifier and the audience have.
-/

namespace RegistryAuth

open Text

/-- The pair that names an identity to the node: the identifier as it was given. -/
def Selector.pair : Selector → String × String
  | .client id => ("client_id", id.text)
  | .resource id => ("mi_res_id", id.text)

namespace Managed

variable {s : ManagedSettings} {selector : Selector} {req : Http.Request} {endpoint : Url}

theorem query_eq (s : ManagedSettings) (selector : Selector) :
    query s selector = [selector.pair, ("resource", s.audience), ("api-version", "2018-02-01")] := by
  cases selector with
  | client id => rfl
  | resource id => rfl

theorem of_request (hendpoint : Url.parse s.endpoint = .ok endpoint)
    (h : request s selector = .ok req) :
    Http.Uri.ofUrl (endpoint.addQuery (query s selector)) = .ok req.uri := by
  obtain ⟨url, hurl, hrest⟩ := bind_eq_ok_iff.1 h
  obtain ⟨uri, huri, hreq⟩ := bind_eq_ok_iff.1 hrest
  obtain rfl := Except.ok.inj (hendpoint.symm.trans (mapError_eq_ok_iff.1 hurl))
  obtain rfl := Except.ok.inj hreq
  exact mapError_eq_ok_iff.1 huri

/-- The request for a token of an identity has the scheme, the authority, the host and the path of its
endpoint.  What is read back from its query are the pairs of the endpoint and then the identity, the
audience and the version, and no others. -/
theorem request_asks_for_identity (hendpoint : Url.parse s.endpoint = .ok endpoint)
    (hscheme : endpoint.scheme = "http".toList ∨ endpoint.scheme = "https".toList)
    (h : request s selector = .ok req) :
    req.uri.scheme = some endpoint.scheme ∧
      (∃ a, endpoint.authority = some a ∧ req.uri.authority = a.text ∧ req.uri.host = a.host.text) ∧
      req.uri.path = endpoint.path.text ∧
      ∃ q, req.uri.query = some q ∧ Form.decode (Utf8.encode q) =
        Form.decode (Utf8.encode (endpoint.query.getD [])) ++
          [selector.pair, ("resource", s.audience), ("api-version", "2018-02-01")] := by
  obtain ⟨rest, -, hread⟩ := Url.of_parse_web hscheme hendpoint
  obtain ⟨a, left, -, hurl⟩ := Url.of_parseAfterSlashes hread
  have ha : endpoint.authority = some a := congrArg Url.authority hurl
  have hpath : endpoint.path.text ≠ [] := by
    rw [hurl]
    exact Url.text_parsePath_ne_nil _
  -- Adding to the query leaves the other parts of the endpoint alone.
  have huri := Http.Uri.of_ofUrl (u := endpoint.addQuery (query s selector)) ha (of_request hendpoint h)
  have hauthority : req.uri.authority = a.text := by rw [huri]
  obtain ⟨q, hq, hdecode⟩ := endpoint.decode_addQuery (query s selector)
  rw [query_eq] at hdecode
  refine ⟨?_, ⟨a, ha, hauthority, Http.Uri.host_of_parse hendpoint ha hauthority⟩, ?_, q, ?_, hdecode⟩
  · rw [huri]
    rfl
  · rw [huri]
    exact if_neg hpath
  · rw [huri]
    exact hq

/-- An endpoint with a query and a fragment, a resource in capitals, and an audience that looks like a
pair. -/
theorem request_of_resource :
    ∃ req, request ⟨"http://localhost/t?a=b#c", "x&y=%26", .ofSeconds 1⟩
        (.resource ⟨"/Sub/é&", by decide⟩) = .ok req ∧
      req.uri.host = "localhost".toList ∧
      ∃ q, req.uri.query = some q ∧ Form.decode (Utf8.encode q) =
        [("a", "b"), ("mi_res_id", "/Sub/é&"), ("resource", "x&y=%26"), ("api-version", "2018-02-01")] := by
  have hendpoint : (Url.parse "http://localhost/t?a=b#c").toOption =
      some ⟨"http".toList, some ⟨[], none, .domain "localhost".toList, none⟩, .segments ["t".toList],
        some "a=b".toList, some "c".toList⟩ := by
    decide +kernel
  have hsome : (request ⟨"http://localhost/t?a=b#c", "x&y=%26", .ofSeconds 1⟩
      (.resource ⟨"/Sub/é&", by decide⟩)).isOk = true := by
    decide +kernel
  have hown : Form.decode (Utf8.encode "a=b".toList) = [("a", "b")] := by decide +kernel
  obtain ⟨req, hreq⟩ := isOk_iff.1 hsome
  obtain ⟨-, ⟨a, ha, -, hhost⟩, -, q, hq, hdecode⟩ := request_asks_for_identity
    (s := ⟨"http://localhost/t?a=b#c", "x&y=%26", .ofSeconds 1⟩) (eq_ok_of_toOption hendpoint) (.inl rfl) hreq
  cases ha
  refine ⟨req, hreq, hhost, q, hq, hdecode.trans ?_⟩
  rw [Option.getD_some, hown]
  rfl

end Managed

end RegistryAuth
