import CloudCredentials.Proofs.AlikeWorlds
import CloudCredentials.Proofs.BackedAsk
import CloudCredentials.Proofs.StandardStrays
import CloudCredentials.Provider.Source

/-!
# Sources that are alike

Sources that agree in everything but secrets answer alike when they are asked in alike worlds:
with the same failure, or with credentials that differ in secrets only. They stay alike, and so do
the worlds. A source that reads its token from a file reads it from an open one.
-/

namespace CloudCredentials

variable {L : Likeness} {u u' w w' : World}

/-! ### Instance metadata -/

namespace InstanceProfile

section Answer

variable {m m' : List (String × Datum)} (h : Fields (L.Field metadataSecrets) m m')

include h

theorem field_eq {name : String} (hn : name ∉ metadataSecrets) : field m name = field m' name := by
  unfold field
  rw [h.lookup_eq hn]

theorem field_secret {name : String} (hn : name ∈ metadataSecrets) :
    Both L.secret (field m name) (field m' name) := by
  have hl := h.lookup_secret hn
  unfold field
  generalize m.lookup name = d at hl
  generalize m'.lookup name = d' at hl
  cases hl with
  | none => exact .error _
  | some hd => exact .ok hd

theorem leaseOf_alike : Both (Lease.Alike L) (leaseOf m) (leaseOf m') := by
  have hrole : field m "role_name" = field m' "role_name" := field_eq h (by decide)
  have haccess : field m "access_key" = field m' "access_key" := field_eq h (by decide)
  have hexpiry : field m "expiry_time" = field m' "expiry_time" := field_eq h (by decide)
  have hsecret : Both L.secret (field m "secret_key") (field m' "secret_key") :=
    field_secret h (by decide)
  have htoken : Both L.secret (field m "token") (field m' "token") := field_secret h (by decide)
  unfold leaseOf
  rw [hrole, haccess, hexpiry]
  cases field m' "role_name" with
  | error failure => exact .error _
  | ok role =>
    cases field m' "access_key" with
    | error failure => exact .error _
    | ok accessKey =>
      refine hsecret.bind fun hs => htoken.bind fun ht => ?_
      cases field m' "expiry_time" with
      | error failure => exact .error _
      | ok expiry =>
        cases hr : (ExpiryField.field expiry).read with
        | error failure =>
          simp only [bind, Except.bind, hr]
          exact .error _
        | ok t =>
          simp only [bind, Except.bind, hr]
          exact .ok ⟨.some ⟨rfl, hs, ht⟩, rfl⟩

end Answer

theorem load_alike (h : World.Alike L u u' w w') :
    Both (Option.Rel (Lease.Alike L)) (load w).1 (load w').1 ∧
      World.Alike L u u' (load w).2 (load w').2 := by
  obtain ⟨hq, hw⟩ := query_alike h
  unfold load
  generalize query w = r at hq hw
  generalize query w' = r' at hq hw
  obtain ⟨answer, v⟩ := r
  obtain ⟨answer', v'⟩ := r'
  cases hq with
  | error failure => exact ⟨.error _, hw⟩
  | ok hm =>
    cases hm with
    | nil => exact ⟨.ok .none, hw⟩
    | cons he hm => exact ⟨(leaseOf_alike (.cons he hm)).map .some, hw⟩

theorem use_alike {l l' : Lease} (hl : l.Alike L l') (h : World.Alike L u u' w w') :
    Ends (Keys.Alike L) (Lease.Alike L) (World.Alike L u u') (use l w) (use l' w') :=
  hl.use method (fun h => h.clock) fetch_alike h

end InstanceProfile

/-! ### Assumed roles -/

def RoleReply.Alike (L : Likeness) : RoleReply → RoleReply → Prop := Option.Rel (Delivery.Alike L)

namespace RoleReply

variable {reply reply' : RoleReply} (h : reply.Alike L reply')

include h

theorem Alike.missing? : reply.missing? = reply'.missing? := by
  cases h with
  | none => rfl
  | some hd => simp only [RoleReply.missing?, hd.accessKey, hd.expiry, isNone_of_rel hd.secretKey,
      isNone_of_rel hd.token]

theorem Alike.delivery : reply.delivery.Alike L reply'.delivery := rel_getD h (.refl _)

theorem Alike.unpack : Both (Delivery.Alike L) reply.unpack reply'.unpack := by
  unfold RoleReply.unpack
  rw [h.missing?]
  cases reply'.missing? with
  | some name => exact .error _
  | none => exact .ok h.delivery

theorem Alike.serves (now : Int) : reply.serves now = reply'.serves now := by
  cases h with
  | none => rfl
  | some hd => simp only [RoleReply.serves, hd.expiry]

end RoleReply

theorem RoleReply.serving?_alike {stored stored' : Option RoleReply}
    (h : Option.Rel (RoleReply.Alike L) stored stored') (now : Int) :
    Both (Option.Rel (RoleReply.Alike L)) (serving? stored now) (serving? stored' now) := by
  cases h with
  | none => exact .ok .none
  | @some reply reply' hr =>
    dsimp only [serving?]
    rw [hr.serves now]
    cases reply'.serves now with
    | error failure => exact .error _
    | ok serves =>
      cases serves with
      | true => exact .ok (.some hr)
      | false => exact .ok .none

theorem RoleReply.ofAnswer_alike {a a' : RoleAnswer} (h : a.Alike L a') (now : Int) :
    (RoleReply.ofAnswer a now).Alike L (RoleReply.ofAnswer a' now) :=
  rel_map h fun hk =>
    ⟨hk.accessKey, hk.secretKey, hk.token, congrArg (Option.map (·.fieldAt now)) hk.expiry⟩

structure AssumedRole.Alike (L : Likeness) (r r' : AssumedRole) : Prop where
  role : r.role = r'.role
  session : r.session = r'.session
  tokenFile : r.tokenFile = r'.tokenFile
  isOpen : L.isOpen r.tokenFile
  lease : r.lease.Alike L r'.lease
  stored : Option.Rel (RoleReply.Alike L) r.stored r'.stored

/-- Alike replies are kept in alike worlds. -/
structure Keeping.Alike (L : Likeness) (u u' : World) (s s' : Keeping) : Prop where
  stored : Option.Rel (RoleReply.Alike L) s.1 s'.1
  world : World.Alike L u u' s.2 s'.2

namespace AssumedRole

theorem readToken_alike {file : String} (hf : L.isOpen file) (h : World.Alike L u u' w w') :
    readToken w file = readToken w' file := by
  unfold readToken
  rw [h.files.isOpen hf]

theorem request_alike {r r' : AssumedRole} (hr : r.Alike L r') (token : String) (client : Client)
    (h : World.Alike L u u' w w') :
    Both (RoleReply.Alike L) (r.request token client w).1 (r'.request token client w').1 ∧
      World.Alike L u u' (r.request token client w).2 (r'.request token client w').2 := by
  have hd : Both (ε := String → Failure) (RoleAnswer.Alike L) (.ok {}) (.ok {}) :=
    .ok (.refl _)
  obtain ⟨hnext, hrest⟩ := next_alike h.roles hd
  unfold request
  rw [hr.role, hr.session]
  have hcall := h.call (.assumeRole r'.role r'.session token client)
  generalize w.roles.next (.ok {}) = o at hnext hrest
  generalize w'.roles.next (.ok {}) = o' at hnext hrest
  obtain ⟨outcome, rest⟩ := o
  obtain ⟨outcome', rest'⟩ := o'
  have hw : World.Alike L u u'
      { w.call (.assumeRole r'.role r'.session token client) with roles := rest }
      { w'.call (.assumeRole r'.role r'.session token client) with roles := rest' } :=
    { hcall with roles := hrest }
  cases hnext with
  | error failure => exact ⟨.error _, hw⟩
  | @ok a a' ha =>
    have hc : w.clock = w'.clock := h.clock
    refine ⟨.ok ?_, hw⟩
    dsimp only [World.clock_call]
    rw [hc]
    exact RoleReply.ofAnswer_alike ha _

section Client

variable {r r' : AssumedRole} {client client' : World → Except Failure Client}
  (hc : ∀ {w w'}, World.Alike L u u' w w' → client w = client' w') (hr : r.Alike L r')

include hc hr

theorem ask_alike (h : World.Alike L u u' w w') :
    Both (RoleReply.Alike L) (r.ask client w).1 (r'.ask client' w').1 ∧
      World.Alike L u u' (r.ask client w).2 (r'.ask client' w').2 := by
  have ht : readToken w r.tokenFile = readToken w' r'.tokenFile := by
    rw [readToken_alike hr.isOpen h, hr.tokenFile]
  unfold ask
  rw [ht, hc h]
  cases readToken w' r'.tokenFile with
  | error failure => exact ⟨.error _, h⟩
  | ok token =>
    dsimp only
    cases client' w' with
    | error failure => exact ⟨.error _, h⟩
    | ok client => exact request_alike hr token client h

theorem fetch_alike {k k' : Keeping} (h : k.Alike L u u' k') :
    Both (Delivery.Alike L) (r.fetch client k).1 (r'.fetch client' k').1 ∧
      (r.fetch client k).2.Alike L u u' (r'.fetch client' k').2 := by
  obtain ⟨stored, w⟩ := k
  obtain ⟨stored', w'⟩ := k'
  obtain ⟨hs, hw⟩ := h
  have hserving := RoleReply.serving?_alike hs w'.clock
  obtain ⟨ha, hv⟩ := ask_alike hc hr hw
  unfold fetch
  dsimp only at hs hw ⊢
  rw [hw.clock]
  generalize RoleReply.serving? stored w'.clock = serving at hserving
  generalize RoleReply.serving? stored' w'.clock = serving' at hserving
  generalize r.ask client w = asked at ha hv
  generalize r'.ask client' w' = asked' at ha hv
  obtain ⟨answer, v⟩ := asked
  obtain ⟨answer', v'⟩ := asked'
  cases hserving with
  | error failure => exact ⟨.error _, hs, hw⟩
  | ok hserving =>
    cases hserving with
    | some hreply => exact ⟨hreply.unpack, hs, hw⟩
    | none =>
      cases ha with
      | error failure => exact ⟨.error _, hs, hv⟩
      | ok hreply => exact ⟨hreply.unpack, .some hreply, hv⟩

theorem use_alike (h : World.Alike L u u' w w') :
    Ends (Keys.Alike L) (AssumedRole.Alike L) (World.Alike L u u') (r.use client w)
      (r'.use client' w') := by
  have hk : Keeping.Alike L u u' (r.stored, w) (r'.stored, w') := ⟨hr.stored, h⟩
  obtain ⟨ha, hl, hs, hw⟩ := hr.lease.use method (fun h => h.world.clock) (fetch_alike hc hr) hk
  exact ⟨ha, ⟨hr.role, hr.session, hr.tokenFile, hr.isOpen, hl, hs⟩, hw⟩

end Client

end AssumedRole

/-! ### Named profiles -/

namespace NamedProfile

theorem loadFrom_alike (p : NamedProfile) (path : Path) (h : World.Alike L u u' w w') :
    Both (Option.Rel (Keys.Alike L)) (p.loadFrom path w).1 (p.loadFrom path w').1 ∧
      World.Alike L u u' (p.loadFrom path w).2 (p.loadFrom path w').2 := by
  have hk := ProfileFile.credentialsFileKeys_alike h path.text p.profile
  unfold loadFrom
  rw [h.isFile]
  generalize ProfileFile.credentialsFileKeys w path.text p.profile = k at hk
  generalize ProfileFile.credentialsFileKeys w' path.text p.profile = k' at hk
  cases w'.files.isFile path.text with
  | false => exact ⟨.error _, h⟩
  | true =>
    rw [if_pos rfl, if_pos rfl]
    cases hk with
    | error failure => exact ⟨.error _, h⟩
    | ok hk =>
      cases hk with
      | none => exact ⟨.ok .none, h⟩
      | some hk => exact ⟨.ok (.some hk), h.record ..⟩

theorem loadDefault_alike (p : NamedProfile) (h : World.Alike L u u' w w') :
    Both (Option.Rel (Keys.Alike L)) (p.loadDefault w).1 (p.loadDefault w').1 ∧
      World.Alike L u u' (p.loadDefault w).2 (p.loadDefault w').2 := by
  unfold loadDefault
  rw [h.environment]
  cases w'.environment.defaultCredentialsFile with
  | none => exact ⟨.error _, h⟩
  | some file =>
    cases w'.environment.defaultConfigFile with
    | none => exact ⟨.error _, h⟩
    | some configFile =>
      have hk := ProfileFile.credentialsFileKeys_alike h file.text p.profile
      have hc := ProfileFile.configFileKeys_alike h configFile.text p.profile
      dsimp only
      generalize ProfileFile.credentialsFileKeys w file.text p.profile = k at hk
      generalize ProfileFile.credentialsFileKeys w' file.text p.profile = k' at hk
      generalize ProfileFile.configFileKeys w configFile.text p.profile = c at hc
      generalize ProfileFile.configFileKeys w' configFile.text p.profile = c' at hc
      cases hk with
      | error failure => exact ⟨.error _, h⟩
      | ok hk =>
        cases hk with
        | some hk => exact ⟨.ok (.some hk), h.record ..⟩
        | none =>
          cases hc with
          | error failure => exact ⟨.error _, h⟩
          | ok hc =>
            cases hc with
            | none => exact ⟨.ok .none, h⟩
            | some hc => exact ⟨.ok (.some hc), h.record ..⟩

theorem load_alike (p : NamedProfile) (h : World.Alike L u u' w w') :
    Both (Option.Rel (Keys.Alike L)) (p.load w).1 (p.load w').1 ∧
      World.Alike L u u' (p.load w).2 (p.load w').2 := by
  unfold load
  cases p.path with
  | some path => exact p.loadFrom_alike path h
  | none => exact p.loadDefault_alike h

end NamedProfile

/-! ### Web identity federation -/

/-- The same parameters; a token file that they name is open. -/
structure WebIdentity.Alike (L : Likeness) (p p' : WebIdentity) : Prop where
  eq : p = p'
  isOpen : ∀ {file}, p.tokenFile = some file → L.isOpen file.plain

theorem WebIdentity.load_alike {p : WebIdentity} (hp : p.Alike L p)
    (h : World.Alike L u u' w w') :
    Both (AssumedRole.Alike L) (p.load w) (p.load w') := by
  have hv (given : Option String) (name : String) :
      orVariable given w name = orVariable given w' name := by
    simp only [orVariable, h.valueOf]
  unfold load
  simp only [hv]
  rw [h.webIdentity, h.clock]
  split
  · exact .error _
  · cases ht : nonempty? (orVariable (p.tokenFile.map FileName.plain) w'
        "AWS_WEB_IDENTITY_TOKEN_FILE") with
    | none => exact .error _
    | some tokenFile =>
      dsimp only
      cases nonempty? (orVariable p.role w' "AWS_ROLE_ARN") with
      | none => exact .error _
      | some role =>
        refine .ok ⟨rfl, rfl, rfl, ?_, .refl _, .none⟩
        have hfound := (Option.filter_eq_some_iff.mp ht).1
        cases hf : p.tokenFile with
        | some file =>
          obtain rfl : file.plain = tokenFile := by simpa [orVariable, hf] using hfound
          exact hp.isOpen hf
        | none =>
          refine h.tokenFile ?_
          rw [h.environment]
          simpa [orVariable, World.valueOf, hf] using hfound

/-! ### The standard lookup -/

/-- What the standard lookup holds in two worlds. -/
inductive StandardKeys.Alike (L : Likeness) : StandardKeys → StandardKeys → Prop
  | fixed {k k' : Keys} (h : k.Alike L k') : Alike L (.fixed k) (.fixed k')
  | environment {l l' : Lease} (h : l.Alike L l') : Alike L (.environment l) (.environment l')
  | role {r r' : AssumedRole} {a a' : ActiveProfile} (h : r.Alike L r') (ha : a.Alike L a') :
    Alike L (.role r a) (.role r' a')
  | machine {l l' : Lease} (h : l.Alike L l') : Alike L (.machine l) (.machine l')
  | other (method : String) {l l' : Lease} (h : l.Alike L l') :
    Alike L (.other method l) (.other method l')

namespace Standard

theorem client_alike {a a' : ActiveProfile} (ha : a.Alike L a') (h : World.Alike L u u' w w') :
    client a w = client a' w' :=
  (unsignedClient_alike none ha h).1

theorem inEnvironment_alike (h : World.Alike L u u' w w') :
    Both (Option.Rel (StandardKeys.Alike L)) (inEnvironment w) (inEnvironment w') := by
  unfold inEnvironment
  rw [h.environment]
  cases w'.environment.nonempty? "AWS_ACCESS_KEY_ID" with
  | none => exact .ok .none
  | some _ =>
    dsimp only
    cases EnvironmentKeys.keys w'.environment with
    | error failure => exact .error _
    | ok keys =>
      dsimp only
      cases w'.environment.nonempty? EnvironmentKeys.expiryName with
      | none => exact .ok (.some (.fixed (.refl keys)))
      | some expiry =>
        dsimp only
        cases (ExpiryField.field (.text expiry)).read with
        | error failure => exact .error _
        | ok t => exact .ok (.some (.environment ⟨.some (.refl keys), rfl⟩))

section Settings

variable {a a' : ActiveProfile} {options options' : ProfileFile.Section}
  (ho : ProfileFile.SectionAlike L options options') (h : World.Alike L u u' w w')

include ho h

theorem isOpen_of_setting {file : String} (hs : identitySetting a options w
    "AWS_WEB_IDENTITY_TOKEN_FILE" ProfileFile.tokenFileName = some file) : L.isOpen file := by
  have profile (hp : (options.lookup ProfileFile.tokenFileName).map Datum.plain = some file) :
      L.isOpen file := by
    obtain ⟨d, hd, rfl⟩ := Option.map_eq_some_iff.mp hp
    exact ho.isOpen hd
  unfold identitySetting at hs
  by_cases hn : a.name.isSome = true
  · exact profile (by simpa [hn] using hs)
  · cases hv : w.valueOf "AWS_WEB_IDENTITY_TOKEN_FILE" with
    | none => exact profile (by simpa [hn, hv] using hs)
    | some value =>
      obtain rfl : value = file := by simpa [hn, hv] using hs
      exact h.tokenFile hv

variable (ha : a.Alike L a')

include ha

theorem identitySetting_alike (variableName : String) {optionName : String}
    (hn : optionName ∉ ProfileFile.secretNames) :
    identitySetting a options w variableName optionName =
      identitySetting a' options' w' variableName optionName := by
  simp only [identitySetting, ho.lookup_eq hn, ha.name, h.valueOf]

theorem inWebIdentity_alike :
    Both (Option.Rel (StandardKeys.Alike L)) (inWebIdentity a options w)
      (inWebIdentity a' options' w') := by
  have ht : identitySetting a options w "AWS_WEB_IDENTITY_TOKEN_FILE" "web_identity_token_file" =
      identitySetting a' options' w' "AWS_WEB_IDENTITY_TOKEN_FILE" "web_identity_token_file" :=
    identitySetting_alike ho h ha _ (by decide)
  have hr : identitySetting a options w "AWS_ROLE_ARN" "role_arn" =
      identitySetting a' options' w' "AWS_ROLE_ARN" "role_arn" :=
    identitySetting_alike ho h ha _ (by decide)
  have hs : identitySetting a options w "AWS_ROLE_SESSION_NAME" "role_session_name" =
      identitySetting a' options' w' "AWS_ROLE_SESSION_NAME" "role_session_name" :=
    identitySetting_alike ho h ha _ (by decide)
  dsimp only [inWebIdentity]
  rw [← ht, ← hr, ← hs, h.webIdentity, h.clock]
  cases hf : (identitySetting a options w "AWS_WEB_IDENTITY_TOKEN_FILE"
      "web_identity_token_file").filter (· ≠ "") with
  | none => exact .ok .none
  | some file =>
    dsimp only
    cases (identitySetting a options w "AWS_ROLE_ARN" "role_arn").filter (· ≠ "") with
    | none => exact .error _
    | some role =>
      dsimp only
      split
      · exact .error _
      · have hfile : L.isOpen file := isOpen_of_setting ho h (Option.filter_eq_some_iff.mp hf).1
        exact .ok (.some (.role ⟨rfl, rfl, rfl, hfile, .refl _, .none⟩ ha))

end Settings

theorem inFiles_alike (profile : String) (h : World.Alike L u u' w w') :
    Both (Option.Rel (Keys.Alike L)) (inFiles profile w) (inFiles profile w') := by
  have hcredentials : ActiveProfile.credentialsFile w = ActiveProfile.credentialsFile w' := by
    simp only [ActiveProfile.credentialsFile, h.valueOf]
  have hconfig : ActiveProfile.configFile w = ActiveProfile.configFile w' := by
    simp only [ActiveProfile.configFile, h.valueOf]
  have hk := ProfileFile.credentialsFileKeys_alike h (ActiveProfile.credentialsFile w') profile
  have hc := ProfileFile.configFileKeys_alike h (ActiveProfile.configFile w') profile
  unfold inFiles
  rw [hcredentials, hconfig]
  generalize ProfileFile.credentialsFileKeys w (ActiveProfile.credentialsFile w') profile = k at hk
  generalize ProfileFile.credentialsFileKeys w' (ActiveProfile.credentialsFile w') profile = k'
    at hk
  cases hk with
  | error failure => exact .error _
  | ok hk =>
    cases hk with
    | none => exact hc
    | some hk => exact .ok (.some hk)

section Load

variable {a a' : ActiveProfile} (ha : a.Alike L a') (h : World.Alike L u u' w w')

include ha h

theorem inOthers_alike {options options' : ProfileFile.Section}
    (ho : ProfileFile.SectionAlike L options options') (profile : String) :
    Both (Option.Rel (StandardKeys.Alike L)) (inOthers a options profile w)
      (inOthers a' options' profile w') := by
  have hi := inWebIdentity_alike ho h ha
  unfold inOthers
  generalize inWebIdentity a options w = i at hi
  generalize inWebIdentity a' options' w' = i' at hi
  cases hi with
  | error failure => exact .error _
  | ok hi =>
    cases hi with
    | some hi => exact .ok (.some hi)
    | none => exact (inFiles_alike profile h).map fun hk => rel_map hk .fixed

theorem inPlaces_alike {profiles profiles' : ProfileFile.Sections}
    (hp : ProfileFile.SectionsAlike L profiles profiles') :
    Both (Option.Rel (StandardKeys.Alike L)) (inPlaces a profiles w)
      (inPlaces a' profiles' w') := by
  have hname : profileName a w = profileName a' w' := by
    simp only [profileName, ha.active? h]
  have hothers := inOthers_alike ha h
    (rel_getD (Fields.lookup hp (profileName a' w')) (.nil : ProfileFile.SectionAlike L [] []))
    (profileName a' w')
  have henvironment := inEnvironment_alike h
  rw [inPlaces_eq, inPlaces_eq, ha.name, hname]
  by_cases hn : a'.name.isSome = true
  · simpa only [hn, if_true] using hothers
  · simp only [hn]
    generalize inEnvironment w = e at henvironment
    generalize inEnvironment w' = e' at henvironment
    cases henvironment with
    | error failure => exact .error _
    | ok he =>
      cases he with
      | some he => exact .ok (.some he)
      | none => exact hothers

theorem lookInPlaces_alike :
    Ends (Option.Rel (StandardKeys.Alike L)) (ActiveProfile.Alike L) (World.Alike L u u')
      (lookInPlaces a w) (lookInPlaces a' w') := by
  obtain ⟨ho, hv⟩ := ActiveProfile.options_alike ha h
  unfold lookInPlaces
  generalize a.options w = r at ho hv
  generalize a'.options w' = r' at ho hv
  obtain ⟨options, b⟩ := r
  obtain ⟨options', b'⟩ := r'
  dsimp only at hv ⊢
  cases ho with
  | error failure => exact ⟨.error _, hv, h⟩
  | ok ho =>
    have hp := inPlaces_alike hv h (rel_getD hv.known (.nil : ProfileFile.SectionsAlike L [] []))
    dsimp only
    generalize inPlaces b (b.known.getD []) w = p at hp
    generalize inPlaces b' (b'.known.getD []) w' = p' at hp
    cases hp with
    | error failure => exact ⟨.error _, hv, h⟩
    | ok hp =>
      cases hp with
      | some hp => exact ⟨.ok (.some hp), hv, h⟩
      | none =>
        obtain ⟨hl, hw⟩ := InstanceProfile.load_alike h
        exact ⟨hl.map fun hl => rel_map hl .machine, hv, hw⟩

theorem load_alike :
    Ends (Option.Rel (StandardKeys.Alike L)) (ActiveProfile.Alike L) (World.Alike L u u')
      (load a w) (load a' w') := by
  have hview : (view a).Alike L (view a') := by
    unfold view
    rw [ha.name]
    split
    · exact ha
    · exact .start none
  obtain ⟨hnext, hrest⟩ := next_alike h.looks (.none : Look.Alike L none none)
  unfold load
  generalize w.looks.next none = r at hnext hrest
  generalize w'.looks.next none = r' at hnext hrest
  obtain ⟨look, rest⟩ := r
  obtain ⟨look', rest'⟩ := r'
  have hw : World.Alike L u u' { w.call .look with looks := rest }
      { w'.call .look with looks := rest' } := { h.call .look with looks := hrest }
  cases hnext with
  | none => exact lookInPlaces_alike hview hw
  | some hlook =>
    refine ⟨hlook.map fun hf => rel_map hf fun hf => ?_, hview, hw⟩
    cases hf with
    | fixed hk => exact .fixed hk
    | leased method hl => exact .other method hl

end Load

theorem renew_alike (method : String) (h : World.Alike L u u' w w') :
    Both (Delivery.Alike L) (renew method w).1 (renew method w').1 ∧
      World.Alike L u u' (renew method w).2 (renew method w').2 := by
  have hd : Both (ε := Failure) (Delivery.Alike L) (.ok ⟨none, none, none, none⟩)
      (.ok ⟨none, none, none, none⟩) := .ok (.refl _)
  obtain ⟨hnext, hrest⟩ := next_alike h.renewals hd
  exact ⟨hnext, { h.call (.renewal method) with renewals := hrest }⟩

theorem use_alike {k k' : StandardKeys} (hk : k.Alike L k') (h : World.Alike L u u' w w') :
    Ends (Keys.Alike L) (StandardKeys.Alike L) (World.Alike L u u') (use k w) (use k' w') := by
  cases hk with
  | fixed hk => exact ⟨.ok hk, .fixed hk, h⟩
  | @environment l l' hl =>
    have fetched {w w' : World} (h : World.Alike L u u' w w') :
        Both (Delivery.Alike L) (EnvironmentKeys.delivery w.environment)
          (EnvironmentKeys.delivery w'.environment) ∧ World.Alike L u u' w w' := by
      rw [h.environment]
      exact ⟨.refl .refl _, h⟩
    have hends : Ends (Keys.Alike L) (Lease.Alike L) (World.Alike L u u')
        (l.use EnvironmentKeys.method World.clock
          (fun w => (EnvironmentKeys.delivery w.environment, w)) w)
        (l'.use EnvironmentKeys.method World.clock
          (fun w => (EnvironmentKeys.delivery w.environment, w)) w') :=
      hl.use EnvironmentKeys.method (fun h => h.clock) fetched h
    exact ⟨hends.answer, .environment hends.state, hends.world⟩
  | role hr hv =>
    obtain ⟨ha, hr, hw⟩ := AssumedRole.use_alike (fun h => client_alike hv h) hr h
    exact ⟨ha, .role hr hv, hw⟩
  | machine hl =>
    obtain ⟨ha, hl, hw⟩ := InstanceProfile.use_alike hl h
    exact ⟨ha, .machine hl, hw⟩
  | other method hl =>
    obtain ⟨ha, hl, hw⟩ := hl.use method (fun h => h.clock) (renew_alike method) h
    exact ⟨ha, .other method hl, hw⟩

theorem expiration_alike {k k' : StandardKeys} (hk : k.Alike L k') :
    expiration k = expiration k' := by
  cases hk with
  | fixed hk => rfl
  | environment hl => exact hl.expiry
  | role hr hv => exact hr.lease.expiry
  | machine hl => exact hl.expiry
  | other method hl => exact hl.expiry

end Standard

/-! ### Sources that load once -/

section Loaded

variable {σ η : Type} {S : σ → σ → Prop} {H : η → η → Prop}

structure Backing.Alike (L : Likeness) (u u' : World) (S : σ → σ → Prop) (H : η → η → Prop)
    (b b' : Backing σ η) : Prop where
  load : ∀ {p p' w w'}, S p p' → World.Alike L u u' w w' →
    Ends (Option.Rel H) S (World.Alike L u u') (b.load p w) (b'.load p' w')
  use : ∀ {k k' w w'}, H k k' → World.Alike L u u' w w' →
    Ends (Keys.Alike L) H (World.Alike L u u') (b.use k w) (b'.use k' w')
  expiration : ∀ {k k'}, H k k' → b.expiration k = b'.expiration k'

structure Backed.Alike (S : σ → σ → Prop) (H : η → η → Prop) (p p' : Backed σ η) : Prop where
  parameters : S p.parameters p'.parameters
  held : Option.Rel H p.held p'.held

namespace Backed

variable {b b' : Backing σ η} {p p' : Backed σ η} (name shown : String)

theorem credentials_alike {k k' : Keys} (hk : k.Alike L k') (t : Option Time.Timestamp) :
    Both (Credentials.Alike L) (credentials name k t) (credentials name k' t) := by
  unfold credentials
  rw [hk.isComplete]
  split
  · exact .ok ⟨hk, rfl, rfl⟩
  · exact .error _

theorem hold_alike (hb : b.Alike L u u' S H b') (hp : p.Alike S H p')
    (h : World.Alike L u u' w w') :
    Ends H (Backed.Alike S H) (World.Alike L u u') (p.hold b name shown w)
      (p'.hold b' name shown w') := by
  obtain ⟨parameters, held⟩ := p
  obtain ⟨parameters', held'⟩ := p'
  obtain ⟨hs, hh⟩ := hp
  dsimp only at hs hh
  cases hh with
  | some hh => exact ⟨.ok hh, ⟨hs, .some hh⟩, h⟩
  | none =>
    obtain ⟨hl, hs, hw⟩ := hb.load hs
      (h.record .debug .providers ("Looking for credentials via " ++ shown))
    dsimp only [hold]
    generalize b.load parameters (w.record .debug .providers
      ("Looking for credentials via " ++ shown)) = r at hl hs hw
    generalize b'.load parameters' (w'.record .debug .providers
      ("Looking for credentials via " ++ shown)) = r' at hl hs hw
    obtain ⟨found, q, v⟩ := r
    obtain ⟨found', q', v'⟩ := r'
    dsimp only at hs hw
    cases hl with
    | error failure => exact ⟨.error _, ⟨hs, .none⟩, hw⟩
    | ok hl =>
      cases hl with
      | none => exact ⟨.error _, ⟨hs, .none⟩, hw⟩
      | some hl => exact ⟨.ok hl, ⟨hs, .some hl⟩, hw⟩

theorem ask_alike (hb : b.Alike L u u' S H b') (hp : p.Alike S H p')
    (h : World.Alike L u u' w w') :
    Ends (Credentials.Alike L) (Backed.Alike S H) (World.Alike L u u') (p.ask b name shown w)
      (p'.ask b' name shown w') := by
  obtain ⟨hh, hq, hv⟩ := hold_alike name shown hb hp h
  unfold ask
  generalize p.hold b name shown w = r at hh hq hv
  generalize p'.hold b' name shown w' = r' at hh hq hv
  obtain ⟨held, q, v⟩ := r
  obtain ⟨held', q', v'⟩ := r'
  dsimp only at hq hv
  cases hh with
  | error failure => exact ⟨.error _, hq, hv⟩
  | @ok held held' hh =>
    obtain ⟨hk, hh, hx⟩ := hb.use hh hv
    dsimp only
    generalize b.use held v = r at hk hh hx
    generalize b'.use held' v' = r' at hk hh hx
    obtain ⟨keys, held, x⟩ := r
    obtain ⟨keys', held', x'⟩ := r'
    dsimp only at hh hx
    cases hk with
    | error failure => exact ⟨.error _, ⟨hq.parameters, .some hh⟩, hx⟩
    | ok hk =>
      dsimp only
      rw [hb.expiration hh]
      exact ⟨credentials_alike name hk _, ⟨hq.parameters, .some hh⟩, hx⟩

end Backed

end Loaded

end CloudCredentials
