import Specimen.Proofs.Http.Readable

/-! A request is answered at once, or one question is put to the store and what the store says decides the
response. -/

namespace Specimen

namespace Store

inductive Query where
  | put (key : String) (records : Dataset)
  | get (key : String)
  | list
  | delete (key : String)

namespace Query

abbrev Answer : Query → Type
  | .put _ _ => String
  | .get _ => Dataset
  | .list => List String
  | .delete _ => Unit

def run {m : Type → Type} (store : Store m) : (q : Query) → ExceptT StoreError m q.Answer
  | .put key records => store.put key records
  | .get key => store.get key
  | .list => store.list
  | .delete key => store.delete key

end Query

end Store

namespace Http

open Store

def Response.cut (method : Method) (response : Response) : Response :=
  if method = .head then { response with body := "" } else response

inductive Plan where
  | reply (response : Response)
  | ask (query : Query) (respond : Except StoreError query.Answer → Response)

namespace Plan

variable {τ : Type}

def map (f : Response → Response) : Plan → Plan
  | .reply response => .reply (f response)
  | .ask query respond => .ask query fun answer => f (respond answer)

def run (store : Store (StateM τ)) : Plan → τ → Response × τ
  | .reply response, w => (response, w)
  | .ask query respond, w => (respond ((query.run store).run w).1, ((query.run store).run w).2)

def relay (query : Query) (encode : query.Answer → Json) : Plan :=
  .ask query fun answer => .ofResult encode (answer.mapError .ofStore)

lemma run_map (f : Response → Response) (store : Store (StateM τ)) (plan : Plan) (w : τ) :
    (plan.map f).run store w = (f (plan.run store w).1, (plan.run store w).2) := by
  cases plan <;> rfl

end Plan

namespace Service

variable {σ : Type} {m : Type → Type} [WordSource σ] (s : Service σ m) (chance : Chance σ) (r : Request)

def keyPlan (segment : List Char) (next : String → Plan) : Plan :=
  match Percent.decode? segment with
  | some key => next key
  | none => .reply .undecodableKey

def resourcePlan : Resource → Plan
  | .generateData =>
    match s.generate chance r with
    | .error e => .reply (.ofError e)
    | .ok records => .relay (.put chance.key records) fun key => StoredDataset.format.toJson ⟨key, records⟩
  | .getData segment => keyPlan segment fun key => .relay (.get key) Dataset.toJson
  | .listFiles => .relay .list fun keys => KeyList.format.toJson ⟨keys⟩
  | .deleteData segment => keyPlan segment fun key =>
      .relay (.delete key) fun _ => Message.format.toJson ⟨"File deleted successfully"⟩
  | .apiDocs => .reply (.json 200 ApiSchemas.all)
  | .health => .reply (.plain 200 "OK")

def plan : Plan :=
  let resource := Resource.ofPath? r.path
  if r.method = .options then .reply (.options resource)
  else
    match resource with
    | none => .reply (.shared 404 [] "")
    | some resource =>
      if resource.allows r.method then (s.resourcePlan chance r resource).map (.cut r.method)
      else .reply (.shared 405 [("allow", resource.allowed)] "")

variable {s chance r} in
lemma plan_induction {P : Plan → Prop} (hreply : ∀ response, P (.reply response))
    (hrelay : ∀ query encode, P ((Plan.relay query encode).map (.cut r.method))) : P (s.plan chance r) := by
  have hkey (segment : List Char) {next : String → Plan} (h : ∀ key, P ((next key).map (.cut r.method))) :
      P ((keyPlan segment next).map (.cut r.method)) := by
    rw [keyPlan]
    split
    · exact h _
    · exact hreply _
  simp only [plan]
  split
  · exact hreply _
  · split
    · exact hreply _
    · rename_i resource _
      split
      · cases resource with
        | generateData =>
          rw [resourcePlan]
          split
          · exact hreply _
          · exact hrelay _ _
        | getData segment | deleteData segment => exact hkey segment fun _ => hrelay _ _
        | listFiles => exact hrelay _ _
        | apiDocs | health => exact hreply _
      · exact hreply _

section

variable {τ : Type} (s : Service σ (StateM τ)) (w : τ)

omit [WordSource σ] in
lemma run_withKey (segment : List Char) {next : String → StateM τ Response} {plan : String → Plan}
    (h : ∀ key, (next key).run w = (plan key).run s.store w) :
    (withKey segment next).run w = (keyPlan segment plan).run s.store w := by
  rw [withKey, keyPlan]
  cases Percent.decode? segment with
  | none => rfl
  | some key => exact h key

omit [WordSource σ] in
lemma run_relay (query : Query) {α : Type} (f : query.Answer → α) (encode : α → Json) :
    (do
      let result ← ((query.run s.store).adapt ApiError.ofStore >>= fun a => pure (f a)).run
      return .ofResult encode result : StateM τ Response).run w =
      (Plan.relay query (encode ∘ f)).run s.store w := by
  change (Response.ofResult encode (((query.run s.store).adapt ApiError.ofStore >>= fun a => pure (f a)).run w).1,
    (((query.run s.store).adapt ApiError.ofStore >>= fun a => pure (f a)).run w).2) = _
  unfold Plan.relay
  rw [Plan.run]
  cases hq : (query.run s.store).run w with
  | mk result w' =>
    have hadapt : ((query.run s.store).adapt ApiError.ofStore).run w = (result.mapError .ofStore, w') := by
      rw [run_adapt, hq]
    cases result with
    | ok a =>
      rw [run_bind_of_ok hadapt]
      rfl
    | error e =>
      rw [run_bind_of_error hadapt]
      rfl

lemma run_answer (resource : Resource) :
    (s.answer chance r resource).run w = (s.resourcePlan chance r resource).run s.store w := by
  cases resource with
  | generateData =>
    rw [answer, generateData, resourcePlan]
    cases s.generate chance r with
    | error e => rfl
    | ok records => exact s.run_relay w (.put chance.key records) (⟨·, records⟩) StoredDataset.format.toJson
  | getData segment => exact s.run_withKey w segment fun key => rfl
  | listFiles => exact s.run_relay w .list (⟨·⟩) KeyList.format.toJson
  | deleteData segment =>
    exact s.run_withKey w segment fun key => s.run_relay w (.delete key) (fun _ => _) Message.format.toJson
  | apiDocs | health => rfl

lemma run_handle : (s.handle chance r).run w = (s.plan chance r).run s.store w := by
  by_cases ho : r.method = .options
  · simp only [handle, plan, if_pos ho]
    rfl
  · cases hp : Resource.ofPath? r.path with
    | none =>
      simp only [handle, plan, if_neg ho, hp]
      rfl
    | some resource =>
      by_cases ha : resource.allows r.method
      · rw [run_handle_of_allows ho hp ha, s.run_answer]
        simp only [plan, if_neg ho, hp, ha, if_true, Plan.run_map]
        rfl
      · simp only [handle, plan, if_neg ho, hp, ha]
        rfl

lemma run_respond_cons (rest : List (Chance σ × Request)) :
    ((s.respond ((chance, r) :: rest)).run w).1 = ((s.plan chance r).run s.store w).1 ::
      ((s.respond rest).run ((s.plan chance r).run s.store w).2).1 := by
  change ((s.handle chance r).run w).1 :: ((s.respond rest).run ((s.handle chance r).run w).2).1 = _
  rw [run_handle]

end

end Service

end Http

end Specimen
