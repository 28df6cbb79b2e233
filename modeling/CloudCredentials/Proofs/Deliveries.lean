import CloudCredentials.Provider.Standard

/-!
# Deliveries

What the services deliver to a list of calls, and the world that the calls leave. A world that was
reached by some calls differs from the one before them by those calls, by what is left of the
scripts, and by its log; so what was delivered can be read off the calls alone. A reply of the token
service counts with all that it lacks, and a look of the SDK with the failure that it ends in.
-/

namespace CloudCredentials.World

/-! ### One call -/

/-- What a service delivers to a call; calls that ask for no keys deliver nothing. -/
def delivery? (w : World) : Call → Option (Except Failure Delivery)
  | .metadata => some (InstanceProfile.fetch w).1
  | .assumeRole role session token client =>
    some ((AssumedRole.request ⟨role, session, "", {}, none⟩ token client w).1.map
      RoleReply.delivery)
  | .look =>
    match (w.looks.next none).1 with
    | some (.error failure) => some (.error failure)
    | _ => none
  | .renewal method => some (Standard.renew method w).1
  | _ => none

def answered (w : World) : Call → World
  | .metadata => { w.call .metadata with metadata := (w.metadata.next (.ok {})).2 }
  | .assumeRole role session token client =>
    { w.call (.assumeRole role session token client) with roles := (w.roles.next (.ok {})).2 }
  | .callerIdentity client =>
    { w.call (.callerIdentity client) with identity := (w.identity.next (.ok {})).2 }
  | .look => { w.call .look with looks := (w.looks.next none).2 }
  | .renewal method => (Standard.renew method w).2
  | c => w.call c

theorem answered_log (w : World) (log : List Record) (c : Call) :
    ({ w with log } : World).answered c = { w.answered c with log } := by
  cases c <;> rfl

theorem delivery?_log (w : World) (log : List Record) (c : Call) :
    ({ w with log } : World).delivery? c = w.delivery? c := by
  cases c with
  | metadata =>
    simp only [delivery?, InstanceProfile.fetch, InstanceProfile.query]
    cases (w.metadata.next (.ok {})).1 <;> rfl
  | assumeRole role session token client =>
    simp only [delivery?, AssumedRole.request]
    cases (w.roles.next (.ok {})).1 <;> rfl
  | _ => rfl

/-! ### Calls in turn -/

def after (w : World) (calls : List Call) : World := calls.foldl answered w

def deliveries : World → List Call → List (Except Failure Delivery)
  | _, [] => []
  | w, c :: rest => (w.delivery? c).toList ++ deliveries (w.answered c) rest

theorem after_append (w : World) (a b : List Call) : w.after (a ++ b) = (w.after a).after b := by
  simp only [after, List.foldl_append]

theorem after_log (w : World) (log : List Record) (calls : List Call) :
    ({ w with log } : World).after calls = { w.after calls with log } := by
  induction calls generalizing w with
  | nil => rfl
  | cons c rest ih =>
    simp only [after, List.foldl_cons] at ih ⊢
    rw [answered_log, ih]

theorem deliveries_log (w : World) (log : List Record) (calls : List Call) :
    deliveries { w with log } calls = deliveries w calls := by
  induction calls generalizing w with
  | nil => rfl
  | cons c rest ih => simp only [deliveries, delivery?_log, answered_log, ih]

theorem deliveries_append (w : World) (a b : List Call) :
    deliveries w (a ++ b) = deliveries w a ++ deliveries (w.after a) b := by
  induction a generalizing w with
  | nil => rfl
  | cons c rest ih =>
    simp only [List.cons_append, deliveries, ih, List.append_assoc]
    rfl

/-- What calls leave as it is: they only use up scripts and are written down. -/
theorem after_frame (w : World) (calls : List Call) :
    (w.after calls).environment = w.environment ∧ (w.after calls).files = w.files ∧
      (w.after calls).clock = w.clock ∧ (w.after calls).webIdentity = w.webIdentity ∧
      (w.after calls).calls = w.calls ++ calls := by
  induction calls generalizing w with
  | nil => exact ⟨rfl, rfl, rfl, rfl, (List.append_nil _).symm⟩
  | cons c rest ih =>
    obtain ⟨he, hf, hc, hs, ht⟩ := ih (w.answered c)
    have hw : (w.answered c).environment = w.environment ∧ (w.answered c).files = w.files ∧
        (w.answered c).clock = w.clock ∧ (w.answered c).webIdentity = w.webIdentity ∧
        (w.answered c).calls = w.calls ++ [c] := by
      cases c <;> exact ⟨rfl, rfl, rfl, rfl, rfl⟩
    refine ⟨he.trans hw.1, hf.trans hw.2.1, hc.trans hw.2.2.1, hs.trans hw.2.2.2.1, ?_⟩
    show ((w.answered c).after rest).calls = w.calls ++ c :: rest
    rw [ht, hw.2.2.2.2, List.append_assoc]
    rfl

/-! ### Worlds reached by calls -/

/-- A world that some calls lead to; records may have been logged on the way. -/
def Grew (w : World) (calls : List Call) (v : World) : Prop :=
  ∃ log, v = { w.after calls with log }

def Logged (w v : World) : Prop := ∃ log, v = { w with log }

theorem Logged.refl (w : World) : w.Logged w := ⟨w.log, rfl⟩

theorem Logged.record {w v : World} (h : w.Logged v) (level : Level) (channel : Channel)
    (text : String) : w.Logged (v.record level channel text) := by
  obtain ⟨log, rfl⟩ := h
  exact ⟨_, rfl⟩

def Later (w v : World) : Prop := ∃ calls, w.Grew calls v

namespace Grew

variable {w v u : World} {a b : List Call}

theorem refl (w : World) : w.Grew [] w := ⟨w.log, rfl⟩

theorem answered (w : World) (c : Call) : w.Grew [c] (w.answered c) :=
  ⟨(w.answered c).log, rfl⟩

theorem trans (h : w.Grew a v) (h' : v.Grew b u) : w.Grew (a ++ b) u := by
  obtain ⟨log, rfl⟩ := h
  obtain ⟨log', rfl⟩ := h'
  exact ⟨log', by rw [after_append, after_log]⟩

theorem record (h : w.Grew a v) (level : Level) (channel : Channel) (text : String) :
    w.Grew a (v.record level channel text) := by
  obtain ⟨log, rfl⟩ := h
  exact ⟨_, rfl⟩

theorem logged (h : w.Grew a v) (hl : v.Logged u) : w.Grew a u := by
  obtain ⟨_, rfl⟩ := h
  obtain ⟨log, rfl⟩ := hl
  exact ⟨log, rfl⟩

theorem clock (h : w.Grew a v) : v.clock = w.clock := by
  obtain ⟨log, rfl⟩ := h
  exact (after_frame w a).2.2.1

theorem files (h : w.Grew a v) : v.files = w.files := by
  obtain ⟨log, rfl⟩ := h
  exact (after_frame w a).2.1

theorem calls (h : w.Grew a v) : v.calls = w.calls ++ a := by
  obtain ⟨log, rfl⟩ := h
  exact (after_frame w a).2.2.2.2

theorem deliveries_append (h : w.Grew a v) (b : List Call) :
    deliveries w (a ++ b) = deliveries w a ++ deliveries v b := by
  obtain ⟨log, rfl⟩ := h
  have hl : deliveries { w.after a with log } b = deliveries (w.after a) b :=
    deliveries_log (w.after a) log b
  rw [World.deliveries_append, hl]

end Grew

namespace Later

variable {w v u : World}

theorem refl (w : World) : w.Later w := ⟨[], .refl w⟩

theorem trans (h : w.Later v) (h' : v.Later u) : w.Later u := by
  obtain ⟨a, ha⟩ := h
  obtain ⟨b, hb⟩ := h'
  exact ⟨a ++ b, ha.trans hb⟩

theorem record (w : World) (level : Level) (channel : Channel) (text : String) :
    w.Later (w.record level channel text) := ⟨[], (Grew.refl w).record level channel text⟩

theorem clock (h : w.Later v) : v.clock = w.clock := h.elim fun _ hg => hg.clock

theorem files (h : w.Later v) : v.files = w.files := h.elim fun _ hg => hg.files

end Later

theorem Logged.later {w v : World} (h : w.Logged v) : w.Later v := by
  obtain ⟨log, rfl⟩ := h
  exact ⟨[], log, rfl⟩

/-- What the services have delivered to the calls by which a world has become a later one. -/
def delivered (w v : World) : List (Except Failure Delivery) :=
  w.deliveries (v.calls.drop w.calls.length)

theorem Grew.delivered {w v : World} {calls : List Call} (h : w.Grew calls v) :
    w.delivered v = w.deliveries calls := by
  rw [World.delivered, h.calls, List.drop_left]

theorem Later.delivered_append {w v u : World} (h : w.Later v) (h' : v.Later u) :
    w.delivered u = w.delivered v ++ v.delivered u := by
  obtain ⟨a, ha⟩ := h
  obtain ⟨b, hb⟩ := h'
  rw [(ha.trans hb).delivered, ha.delivered, hb.delivered]
  exact ha.deliveries_append b

end CloudCredentials.World

namespace CloudCredentials

open World

/-! ### The calls of the sources -/

theorem InstanceProfile.fetch_grew (w : World) :
    w.Grew [.metadata] (fetch w).2 ∧ deliveries w [.metadata] = [(fetch w).1] := by
  refine ⟨⟨w.log, ?_⟩, rfl⟩
  simp only [fetch, query]
  cases (w.metadata.next (.ok {})).1 <;> rfl

theorem AssumedRole.request_grew (r : AssumedRole) (token : String) (client : Client) (w : World) :
    w.Grew [.assumeRole r.role r.session token client] (r.request token client w).2 ∧
      deliveries w [.assumeRole r.role r.session token client] =
        [(r.request token client w).1.map RoleReply.delivery] := by
  refine ⟨⟨w.log, ?_⟩, ?_⟩
  · simp only [request]
    cases (w.roles.next (.ok {})).1 <;> rfl
  · simp only [deliveries, delivery?, request]
    cases (w.roles.next (.ok {})).1 <;> rfl

/-- A look ends as the script says, or goes through the described places. -/
theorem Standard.load_cases (a : ActiveProfile) (w : World) :
    ((w.looks.next none).1 = none ∧ load a w = lookInPlaces (view a) (w.answered .look)) ∨
      ∃ look, (w.looks.next none).1 = some look ∧
        load a w = (look.map (·.map ofFound), view a, w.answered .look) := by
  cases hl : (w.looks.next none).1 with
  | none => exact .inl ⟨rfl, by simp only [load, hl]; rfl⟩
  | some look => exact .inr ⟨look, rfl, by simp only [load, hl]; rfl⟩

theorem Standard.renew_grew (method : String) (w : World) :
    w.Grew [.renewal method] (renew method w).2 ∧
      deliveries w [.renewal method] = [(renew method w).1] :=
  ⟨⟨w.log, rfl⟩, rfl⟩

theorem InstanceProfile.load_grew (w : World) : w.Grew [.metadata] (load w).2 := by
  refine ⟨w.log, ?_⟩
  simp only [load, query]
  cases (w.metadata.next (.ok {})).1 with
  | error failure => rfl
  | ok answer =>
    dsimp only
    split <;> rfl

end CloudCredentials
