import RegistryAuth.Proofs.Http.Hosts
import RegistryAuth.Proofs.Registry.Host
import RegistryAuth.Proofs.Url.Form

/-!
# What a registry is told

The form that a registry is sent holds four pairs, or three where the tenant is not known, whatever
characters the token, the tenant and the host have.  The service that it names is the host that the request
goes to.
-/

namespace RegistryAuth.Registry

open Text

variable {s : ExchangeSettings} {token : AccessToken} {tenant : Option TenantId} {host : String}
  {req : Http.Request}

/-- The steps in which a request to a registry is made. -/
theorem of_request (h : request s token tenant host = .ok req) :
    ∃ url service uri, exchangeUrl s host = .ok url ∧ url.host? = some service ∧
      Http.Uri.ofUrl url = .ok uri ∧ req.uri = uri ∧
      req.body = (form service.text tenant token).encode := by
  obtain ⟨url, hurl, h⟩ := bind_eq_ok_iff.1 h
  split at h
  · cases h
  · rename_i service hservice
    obtain ⟨uri, huri, h⟩ := bind_eq_ok_iff.1 h
    cases h
    exact ⟨url, service, uri, hurl, hservice, mapError_eq_ok_iff.1 huri, rfl, rfl⟩

theorem authority_of_host? {url : Url} {service : Url.Host} (h : url.host? = some service) :
    ∃ a, url.authority = some a ∧ a.host = service := by
  unfold Url.host? at h
  split at h
  · rename_i a ha
    split at h
    · cases h
    · exact ⟨a, ha, Option.some.inj h⟩
  · cases h

/-- The host of the address of a request is the service that its form names. -/
theorem service_of_request (h : request s token tenant host = .ok req) :
    req.body = (form req.uri.host tenant token).encode := by
  obtain ⟨url, service, uri, hurl, hservice, huri, hreq, hbody⟩ := of_request h
  obtain ⟨a, ha, rfl⟩ := authority_of_host? hservice
  obtain ⟨-, hparse⟩ := exchangeUrl_eq_ok hurl
  have hauthority : req.uri.authority = a.text := by
    rw [hreq, Http.Uri.of_ofUrl ha huri]
  rw [hbody, Http.Uri.host_of_parse hparse ha hauthority]

/-- What is read back from the form of a request are its pairs and no others: the grant, the host that the
request goes to, the tenant if there is one, and the token. -/
theorem form_reads_back_as_request (h : request s token tenant host = .ok req) :
    Form.decode (Utf8.encode req.body) =
      [("grant_type", "access_token"), ("service", String.ofList req.uri.host)] ++
        (tenant.map fun t => ("tenant", t.text)).toList ++ [("access_token", token.text)] := by
  rw [service_of_request h, Form.decode_encode]
  rfl

/-- A token that looks like further pairs, for a host with a port. -/
theorem form_of_local_request :
    ∃ req, request .default ⟨"t&service=x&é+%26"⟩ none "localhost:5000" = .ok req ∧
      Form.decode (Utf8.encode req.body) =
        [("grant_type", "access_token"), ("service", "localhost"),
          ("access_token", "t&service=x&é+%26")] := by
  have hhost : ((request .default ⟨"t&service=x&é+%26"⟩ none "localhost:5000").map (·.uri.host)).toOption =
      some "localhost".toList := by
    decide +kernel
  obtain ⟨req, hreq, hlocal⟩ := map_eq_ok_iff.1 (eq_ok_of_toOption hhost)
  refine ⟨req, hreq, ?_⟩
  rw [form_reads_back_as_request hreq, hlocal]
  rfl

end RegistryAuth.Registry
