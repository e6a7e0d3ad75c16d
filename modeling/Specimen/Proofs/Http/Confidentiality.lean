import Specimen.Proofs.Http.Plan
import Specimen.Store.Memory

/-! Services respond alike over stores that differ in no more than the reasons for which they fail. -/

namespace Specimen

namespace Store

variable {τ τ' : Type}

inductive Alike {α : Type} : Except StoreError α → Except StoreError α → Prop
  | ok (a) : Alike (.ok a) (.ok a)
  | notFound (key key') : Alike (.error (.notFound key)) (.error (.notFound key'))
  | failed {e e'} : e.IsInternal → e'.IsInternal → Alike (.error e) (.error e')

def after (store : Store (StateM τ)) : List Query → τ → τ
  | [], w => w
  | query :: rest, w => after store rest ((query.run store).run w).2

/-- The answers to any question are alike, whatever has been asked of both stores before. -/
def BehavesAlike (store : Store (StateM τ)) (w : τ) (store' : Store (StateM τ')) (w' : τ') : Prop :=
  ∀ history (query : Query),
    Alike ((query.run store).run (store.after history w)).1 ((query.run store').run (store'.after history w')).1

lemma Alike.refl {α : Type} : (answer : Except StoreError α) → Alike answer answer
  | .ok a => .ok a
  | .error (.notFound key) => .notFound key key
  | .error (.files _ _) | .error (.json _ _) => .failed (fun _ h => by cases h) fun _ h => by cases h

namespace BehavesAlike

variable {store : Store (StateM τ)} {store' : Store (StateM τ')} {w : τ} {w' : τ'}

lemma answer (h : store.BehavesAlike w store' w') (query : Query) :
    Alike ((query.run store).run w).1 ((query.run store').run w').1 := h [] query

lemma step (h : store.BehavesAlike w store' w') (query : Query) :
    store.BehavesAlike ((query.run store).run w).2 store' ((query.run store').run w').2 :=
  fun history => h (query :: history)

lemma of_invariant {I : τ → τ' → Prop}
    (h : ∀ u u' (query : Query), I u u' → Alike ((query.run store).run u).1 ((query.run store').run u').1 ∧
      I ((query.run store).run u).2 ((query.run store').run u').2) (hi : I w w') :
    store.BehavesAlike w store' w' := by
  intro history
  induction history generalizing w w' with
  | nil => exact fun query => (h w w' query hi).1
  | cons query rest ih => exact ih (h w w' query hi).2

end BehavesAlike

end Store

namespace Http

open Store

namespace Response

def missing : Response := json 404 (ErrorBody.format.toJson ⟨"Data not found for the given key"⟩)

def broken : Response := json 500 (ErrorBody.format.toJson ⟨"Internal server error"⟩)

lemma ofError_ofStore {e : StoreError} (h : e.IsInternal) : ofError (.ofStore e) = broken := by
  cases e with
  | notFound key => exact absurd rfl (h key)
  | files | json => rfl

end Response

lemma ApiError.logged?_ofStore {e : StoreError} (h : e.IsInternal) :
    (ApiError.ofStore e).logged? = some (.error, e.message) := by
  cases e with
  | notFound key => exact absurd rfl (h key)
  | files | json => rfl

namespace Plan

variable {τ τ' : Type}

/-- The response does not tell one answer from another that is alike. -/
def Discreet : Plan → Prop
  | .reply _ => True
  | .ask _ respond => ∀ answer answer', Alike answer answer' → respond answer = respond answer'

lemma discreet_relay (query : Query) (encode : query.Answer → Json) : (relay query encode).Discreet := by
  rintro answer answer' (_ | _ | ⟨he, he'⟩)
  · rfl
  · rfl
  · exact (Response.ofError_ofStore he).trans (Response.ofError_ofStore he').symm

lemma Discreet.map {plan : Plan} (f : Response → Response) (h : plan.Discreet) : (plan.map f).Discreet := by
  cases plan with
  | reply response => trivial
  | ask query respond => exact fun answer answer' ha => congrArg f (h answer answer' ha)

lemma Discreet.run {plan : Plan} {store : Store (StateM τ)} {store' : Store (StateM τ')} {w : τ} {w' : τ'}
    (hp : plan.Discreet) (h : store.BehavesAlike w store' w') :
    (plan.run store w).1 = (plan.run store' w').1 ∧
      store.BehavesAlike (plan.run store w).2 store' (plan.run store' w').2 := by
  cases plan with
  | reply response => exact ⟨rfl, h⟩
  | ask query respond => exact ⟨hp _ _ (h.answer query), h.step query⟩

def Fails (plan : Plan) (store : Store (StateM τ)) (w : τ) (e : StoreError) : Prop :=
  ∃ query respond, plan = .ask query respond ∧ ((query.run store).run w).1 = .error e

end Plan

namespace Service

variable {σ τ τ' : Type} [WordSource σ]

def withStore {m m' : Type → Type} (s : Service σ m) (store : Store m') : Service σ m' := ⟨s.engine, store, s.config⟩

variable {s : Service σ (StateM τ)} {store : Store (StateM τ')} {w : τ} {w' : τ'} {chance : Chance σ} {r : Request}

lemma discreet_plan (s : Service σ (StateM τ)) (chance : Chance σ) (r : Request) : (s.plan chance r).Discreet :=
  plan_induction (fun _ => trivial) fun query encode => (Plan.discreet_relay query encode).map _

lemma plan_withStore : (s.withStore store).plan chance r = s.plan chance r := rfl

lemma response_of_fails {e : StoreError} (h : (s.plan chance r).Fails s.store w e) :
    ((s.handle chance r).run w).1 = .cut r.method (.ofError (.ofStore e)) := by
  rw [run_handle]
  revert h
  refine plan_induction (P := fun plan => plan.Fails s.store w e → (plan.run s.store w).1 = _) ?_ ?_
  · rintro response ⟨query, respond, ⟨⟩, -⟩
  · rintro query encode ⟨_, _, ⟨⟩, hfails⟩
    change Response.cut r.method (.ofResult encode (((query.run s.store).run w).1.mapError .ofStore)) = _
    rw [hfails]
    rfl

lemma respond_withStore (h : s.store.BehavesAlike w store w') (l : List (Chance σ × Request)) :
    ((s.respond l).run w).1 = (((s.withStore store).respond l).run w').1 := by
  induction l generalizing w w' with
  | nil => rfl
  | cons e rest ih =>
    obtain ⟨chance, r⟩ := e
    obtain ⟨hresponse, hlater⟩ := (s.discreet_plan chance r).run h
    rw [run_respond_cons, run_respond_cons, plan_withStore, hresponse, ih hlater]
    rfl

/-- Clients cannot tell a service from one over another store that behaves alike. Where a store fails they are told
that a dataset is missing or that something went wrong; the reason is for the log. -/
theorem respond_eq_of_behavesAlike (h : s.store.BehavesAlike w store w') :
    (∀ l, ((s.respond l).run w).1 = (((s.withStore store).respond l).run w').1) ∧
    ∀ chance r u, (s.handle chance r).run u = (s.plan chance r).run s.store u ∧
      ∀ e, (s.plan chance r).Fails s.store u e →
        (∀ key, e = .notFound key → ((s.handle chance r).run u).1 = .cut r.method .missing) ∧
        (e.IsInternal → ((s.handle chance r).run u).1 = .cut r.method .broken ∧
          (ApiError.ofStore e).logged? = some (.error, e.message)) := by
  refine ⟨respond_withStore h, fun chance r u => ⟨s.run_handle chance r u, fun e hfails => ⟨?_, fun he => ⟨?_, ?_⟩⟩⟩⟩
  · rintro key rfl
    exact response_of_fails hfails
  · rw [response_of_fails hfails, Response.ofError_ofStore he]
  · exact ApiError.logged?_ofStore he

section

def marred (bad : String) (e : StoreError) : Store (StateM Datasets) :=
  { memory with get := fun key => if key = bad then throw e else memory.get key }

lemma behavesAlike_marred {bad : String} {e e' : StoreError} (he : e.IsInternal) (he' : e'.IsInternal)
    (w : Datasets) : (marred bad e).BehavesAlike w (marred bad e') w := by
  refine .of_invariant (I := Eq) ?_ rfl
  rintro u _ query rfl
  cases query with
  | get key =>
    by_cases hkey : key = bad
    · simp only [Query.run, marred, if_pos hkey]
      exact ⟨.failed he he', rfl⟩
    · simp only [Query.run, marred, if_neg hkey]
      exact ⟨.refl _, trivial⟩
  | put | list | delete => exact ⟨.refl _, rfl⟩

def marredService (e : StoreError) : Service WordCycle (StateM Datasets) := ⟨Engine.plainEngine, marred "k" e, {}⟩

def sampleVisit : List (Chance WordCycle × Request) :=
  [(sampleChance, samplePost), (sampleChance, sampleGet "k"), (sampleChance, sampleGet "l")]

def lockedError : StoreError := .files .other "/srv/k.json: Permission denied (os error 13)"

def garbledError : StoreError := .json .malformed "expected value at line 3 column 7"

theorem respond_eq_of_behavesAlike_marred :
    (marredService lockedError).store.BehavesAlike .empty (marred "k" garbledError) .empty ∧
      (((marredService lockedError).respond sampleVisit).run .empty).1.map Response.status = [200, 500, 404] ∧
      (((marredService lockedError).respond sampleVisit).run .empty).1 =
        (((marredService garbledError).respond sampleVisit).run .empty).1 := by
  have halike : (marredService lockedError).store.BehavesAlike .empty (marred "k" garbledError) .empty :=
    behavesAlike_marred (fun _ h => by cases h) (fun _ h => by cases h) .empty
  have hstatus : (((marredService lockedError).respond sampleVisit).run .empty).1.map Response.status =
      [200, 500, 404] := by
    decide +kernel
  exact ⟨halike, hstatus, (respond_eq_of_behavesAlike halike).1 sampleVisit⟩

end

end Service

end Http

end Specimen
