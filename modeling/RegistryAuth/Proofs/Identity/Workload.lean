import RegistryAuth.Proofs.Url.Origin
import RegistryAuth.Settings

/-!
# Where an assertion is sent

The endpoint that a tenant's token is asked for at is put together from texts: the authority, a slash, and
a path in which the tenant has taken its place.  Whatever the path and the tenant hold, the endpoint has the
scheme, the user, the password, the host and the port of the authority.
-/

namespace RegistryAuth.WorkloadSettings

/-- What stands behind the authority in the text of an endpoint is parted from it by a slash. -/
theorem exists_toList_endpointText (s : WorkloadSettings) (tenant : TenantId) :
    ∃ rest, (s.endpointText tenant).toList = s.authority.toList ++ rest ∧
      (s.authority.toList.getLast? = some '/' ∨ rest.head? = some '/') := by
  unfold endpointText
  simp only [String.toList_append, String.toList_ofList]
  by_cases hlast : s.authority.toList.getLast? = some '/'
  · rw [if_pos hlast]
    exact ⟨_, rfl, .inl hlast⟩
  · rw [if_neg hlast, String.toList_append, List.append_assoc]
    exact ⟨_, rfl, .inr rfl⟩

/-- No tenant and no path can lead a request for a token away from the authority. -/
theorem tokenEndpoint_stays_at_authority {s : WorkloadSettings} {tenant : TenantId} {u e : Url}
    (hauthority : Url.parse s.authority = .ok u)
    (hscheme : u.scheme = "http".toList ∨ u.scheme = "https".toList)
    (h : s.tokenEndpoint tenant = .ok e) :
    e.scheme = u.scheme ∧ ∃ a, u.authority = some a ∧ e.authority = some a := by
  obtain ⟨rest, htext, hslash⟩ := s.exists_toList_endpointText tenant
  exact Url.origin_of_append hscheme hauthority htext hslash (mapError_eq_ok_iff.1 h)

/-- A tenant that looks like another authority, behind one with a user and a port. -/
theorem origin_of_slashed_tenant :
    ∃ e, tokenEndpoint ⟨"https://u:p@localhost:8443", "\x7btenant\x7d/token", "", ""⟩
        ⟨"/\\evil@host:1/..?#", by decide⟩ = .ok e ∧
      e.scheme = "https".toList ∧
      e.authority = some ⟨"u".toList, some "p".toList, .domain "localhost".toList, some 8443⟩ := by
  have hauthority : (Url.parse "https://u:p@localhost:8443").toOption =
      some ⟨"https".toList, some ⟨"u".toList, some "p".toList, .domain "localhost".toList, some 8443⟩,
        .segments [[]], none, none⟩ := by
    decide +kernel
  have hsome : (tokenEndpoint ⟨"https://u:p@localhost:8443", "\x7btenant\x7d/token", "", ""⟩
      ⟨"/\\evil@host:1/..?#", by decide⟩).isOk = true := by
    decide +kernel
  obtain ⟨e, he⟩ := isOk_iff.1 hsome
  obtain ⟨hscheme, a, ha, hsame⟩ := tokenEndpoint_stays_at_authority
    (s := ⟨"https://u:p@localhost:8443", "\x7btenant\x7d/token", "", ""⟩) (eq_ok_of_toOption hauthority)
    (.inr rfl) he
  cases ha
  exact ⟨e, he, hscheme, hsame⟩

end RegistryAuth.WorkloadSettings
