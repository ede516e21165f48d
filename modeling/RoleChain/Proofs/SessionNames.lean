import RoleChain.Proofs.ResolutionEffects

/-!
Default names of sessions. What is cut off a name is the end of its suffix, as long as the purpose
leaves room for one. So a name tells its purpose, and it tells as much of its suffix as there is room
for: two suffixes are told apart if, and only if, they differ in that part.
-/
namespace RoleChain

variable {σ : Type}

namespace SessionName

/-- How many characters of a suffix there is room for behind a purpose and its hyphen. -/
def room (purpose : String) : Nat := maxLength - (purpose ++ "-").length

theorem toList_withSuffix (purpose suffix : String) :
    (withSuffix purpose suffix).toList =
      (purpose ++ "-").toList.take maxLength ++ suffix.toList.take (room purpose) := by
  rw [withSuffix, String.toList_ofList, String.toList_append, List.take_append, room,
    String.length_toList]

theorem prefix_withSuffix (purpose suffix : String) :
    (withSuffix purpose suffix).toList <+: (purpose ++ "-" ++ suffix).toList := by
  rw [withSuffix, String.toList_ofList]
  exact List.take_prefix _ _

theorem length_withSuffix (purpose suffix : String) :
    (withSuffix purpose suffix).length =
      min maxLength (purpose.length + 1 + suffix.length) := by
  rw [withSuffix, String.length_ofList, List.length_take, String.length_toList,
    String.length_append, String.length_append]
  rfl

/-- A purpose that leaves room for its hyphen is told by each of its names. -/
theorem purpose_prefix_withSuffix {purpose : String} (h : purpose.length < maxLength)
    (suffix : String) : (purpose ++ "-").toList <+: (withSuffix purpose suffix).toList := by
  have hlength : (purpose ++ "-").toList.length ≤ maxLength := by
    rw [String.length_toList, String.length_append]
    exact h
  rw [toList_withSuffix, List.take_of_length_le hlength]
  exact List.prefix_append _ _

/-- Names for one purpose are equal if the suffixes agree as far as there is room for them. -/
theorem withSuffix_eq_iff (purpose a b : String) :
    withSuffix purpose a = withSuffix purpose b ↔
      a.toList.take (room purpose) = b.toList.take (room purpose) := by
  rw [← String.toList_inj, toList_withSuffix, toList_withSuffix, List.append_cancel_left_eq]

/-- Suffixes that there is room for are told apart. -/
theorem eq_of_withSuffix_eq (purpose : String) {a b : String} (ha : a.length ≤ room purpose)
    (hb : b.length ≤ room purpose) (h : withSuffix purpose a = withSuffix purpose b) : a = b := by
  rw [← String.length_toList] at ha hb
  rw [withSuffix_eq_iff, List.take_of_length_le ha, List.take_of_length_le hb] at h
  exact String.toList_inj.mp h

/-- Purposes are told apart by their names unless one of them begins with the other. -/
theorem withSuffix_ne {purpose other : String} (h : purpose.length < maxLength)
    (hother : other.length < maxLength)
    (hleft : ¬ (purpose ++ "-").toList <+: (other ++ "-").toList)
    (hright : ¬ (other ++ "-").toList <+: (purpose ++ "-").toList) (a b : String) :
    withSuffix purpose a ≠ withSuffix other b := by
  intro heq
  have hpurpose := purpose_prefix_withSuffix h a
  rw [heq] at hpurpose
  -- Both purposes begin one name, so the shorter of them begins the other.
  rcases List.prefix_or_prefix_of_prefix hpurpose (purpose_prefix_withSuffix hother b) with
    hprefix | hprefix
  · exact hleft hprefix
  · exact hright hprefix

end SessionName

/-! ### Who uses default names -/

theorem Run.result_sessionName (service : Service σ) {w : World σ} {suffix : String}
    (h : w.nextSuffix = .ok suffix) (purpose : String) (out : Failure → Raised) :
    ((sessionName purpose out).perform service w).result =
      .ok (SessionName.withSuffix purpose suffix) := by
  have hstream : w.suffixes.stream w.suffixes.position = .ok suffix := h
  simp only [sessionName, perform, SuffixSource.next, hstream]
  rfl

theorem Hop.result_session (service : Service σ) {w : World σ} {suffix : String}
    (h : w.nextSuffix = .ok suffix) {hop : Hop} (hname : hop.sessionName = none) :
    (hop.session.perform service w).result =
      .ok (SessionName.withSuffix SessionName.assumeRolePurpose suffix) := by
  rw [Hop.session, hname]
  exact Run.result_sessionName service h _ _

theorem Base.result_resolve_unnamed (service : Service σ) {w : World σ} {suffix : String}
    (h : w.nextSuffix = .ok suffix) (arn tokenFile : String) (registry : Registry)
    (under : ClientConfiguration) :
    (((Base.webIdentity arn tokenFile none).resolve registry under).perform service w).result =
      .ok (.webIdentity ⟨.ofString tokenFile, arn,
        SessionName.withSuffix SessionName.webIdentityPurpose suffix⟩ under) := by
  rw [Base.perform_resolve]
  simp only [Base.provider?, h]

namespace SessionName

/-- Who uses the default names that are made of the next suffix: whoever asks for one, a hop, and a
role that a token opens. -/
structure AreUsed (service : Service σ) (w : World σ) (suffix : String) : Prop where
  asked : ∀ purpose, ((Run.sessionName purpose).perform service w).result =
    .ok (withSuffix purpose suffix)
  hop : ∀ hop : Hop, hop.sessionName = none →
    (hop.session.perform service w).result = .ok (withSuffix "assume-role-from-profile" suffix)
  token : ∀ arn tokenFile registry under,
    (((Base.webIdentity arn tokenFile none).resolve registry under).perform service w).result =
      .ok (.webIdentity ⟨.ofString tokenFile, arn,
        withSuffix "web-identity-token-profile" suffix⟩ under)

/-- What default names tell of their purpose and of two suffixes. -/
structure Tell (a b : String) : Prop where
  /-- They keep to the length that the service accepts, and are never empty. -/
  bounded : ∀ purpose, 1 ≤ (withSuffix purpose a).length ∧ (withSuffix purpose a).length ≤ 64 ∧
    (withSuffix purpose a).toList <+: (purpose ++ "-" ++ a).toList
  hop_begins : "assume-role-from-profile-".toList <+: (withSuffix "assume-role-from-profile" a).toList
  token_begins :
    "web-identity-token-profile-".toList <+: (withSuffix "web-identity-token-profile" a).toList
  apart : withSuffix "assume-role-from-profile" a ≠ withSuffix "web-identity-token-profile" b
  /-- Of the suffix the name of a hop tells 39 characters and nothing else. -/
  hop_eq_iff : withSuffix "assume-role-from-profile" a = withSuffix "assume-role-from-profile" b ↔
    a.toList.take 39 = b.toList.take 39
  /-- That of a role with a token tells 37. -/
  token_eq_iff :
    withSuffix "web-identity-token-profile" a = withSuffix "web-identity-token-profile" b ↔
      a.toList.take 37 = b.toList.take 37
  /-- Shorter suffixes that differ make names that differ. -/
  short : a ≠ b → a.length ≤ 37 → b.length ≤ 37 →
    withSuffix "assume-role-from-profile" a ≠ withSuffix "assume-role-from-profile" b ∧
    withSuffix "web-identity-token-profile" a ≠ withSuffix "web-identity-token-profile" b ∧
    withSuffix "assume-role-from-profile" a ≠ withSuffix "web-identity-token-profile" b ∧
    withSuffix "web-identity-token-profile" a ≠ withSuffix "assume-role-from-profile" b

/-- Default names are used wherever none is declared, and they tell their purpose and as much of
their suffix as there is room for. -/
theorem suffixes_told (service : Service σ) (w : World σ) (a b : String) :
    (w.nextSuffix = .ok a → AreUsed service w a) ∧ Tell a b := by
  have hopRoom : room assumeRolePurpose = 39 := by decide
  have tokenRoom : room webIdentityPurpose = 37 := by decide
  have hopLength : assumeRolePurpose.length < maxLength := by decide
  have tokenLength : webIdentityPurpose.length < maxLength := by decide
  have hapart (a b : String) : withSuffix assumeRolePurpose a ≠ withSuffix webIdentityPurpose b :=
    withSuffix_ne hopLength tokenLength (by decide) (by decide) a b
  refine ⟨fun h => ⟨?_, ?_, ?_⟩, fun purpose => ?_, ?_, ?_, hapart a b, ?_, ?_, ?_⟩
  · exact fun purpose => Run.result_sessionName service h purpose _
  · exact fun hop hname => Hop.result_session service h hname
  · exact fun arn tokenFile registry under =>
      Base.result_resolve_unnamed service h arn tokenFile registry under
  · have hlength := length_withSuffix purpose a
    simp only [maxLength] at hlength
    exact ⟨by omega, by omega, prefix_withSuffix purpose a⟩
  · exact purpose_prefix_withSuffix hopLength a
  · exact purpose_prefix_withSuffix tokenLength a
  · rw [← hopRoom]
    exact withSuffix_eq_iff assumeRolePurpose a b
  · rw [← tokenRoom]
    exact withSuffix_eq_iff webIdentityPurpose a b
  · intro hne ha hb
    refine ⟨fun heq => hne ?_, fun heq => hne ?_, hapart a b, (hapart b a).symm⟩
    · exact eq_of_withSuffix_eq assumeRolePurpose (by omega) (by omega) heq
    · exact eq_of_withSuffix_eq webIdentityPurpose (by omega) (by omega) heq

/-- Suffixes of 37 characters, most of them four bytes long, that differ in the last. -/
theorem suffixes_told_at_cut :
    let a := String.ofList (List.replicate 36 '😀' ++ ['1'])
    let b := String.ofList (List.replicate 36 '😀' ++ ['2'])
    let service : Service Unit := ⟨fun _ _ => none, fun _ _ => (.silence, ())⟩
    let w : World Unit := World.bare a ()
    let hop : Hop := { roleArn := "a" }
    w.nextSuffix = .ok a ∧ hop.sessionName = none ∧ a ≠ b ∧ a.length ≤ 37 ∧ b.length ≤ 37 ∧
      (hop.session.perform service w).result = .ok (withSuffix "assume-role-from-profile" a) ∧
      withSuffix "assume-role-from-profile" a ≠ withSuffix "assume-role-from-profile" b ∧
      withSuffix "web-identity-token-profile" a ≠ withSuffix "web-identity-token-profile" b := by
  intro a b service w hop
  have hne : a ≠ b := fun h => absurd (String.ofList_injective h) (by decide)
  have ha : a.length ≤ 37 := Nat.le_of_eq String.length_ofList
  have hb : b.length ≤ 37 := Nat.le_of_eq String.length_ofList
  obtain ⟨hused, htell⟩ := suffixes_told service w a b
  obtain ⟨hofHop, hofToken, -, -⟩ := htell.short hne ha hb
  exact ⟨rfl, rfl, hne, ha, hb, (hused rfl).hop hop rfl, hofHop, hofToken⟩

end SessionName

end RoleChain
