import ServiceHost.CommandLine

/-! The causes of an error in what is said of it. An error has at most one source; along its sources every message
is the end of the message above, so the message at the top has them all. The failures of a shutdown are no sources:
their messages are listed. -/

namespace ServiceHost.Lifecycle

def EndsWith (s t : String) : Prop := ∃ front, s = front ++ t

theorem EndsWith.trans {s t u : String} (upper : EndsWith s t) (lower : EndsWith t u) : EndsWith s u := by
  obtain ⟨front, rfl⟩ := upper
  obtain ⟨front', rfl⟩ := lower
  exact ⟨front ++ front', by rw [String.append_assoc]⟩

/-! ## Sources -/

/-- Anything that can be a source, or have one. -/
inductive Fault where
  | run (e : RunError)
  | boot (e : BootError)
  | resource (e : ResourceError)
  | cleanup (e : CleanupError)
  | failures (fs : Failures)
  /-- An error that has nothing below it, such as one of input and output. -/
  | text (s : String)

namespace Fault

def message : Fault → String
  | run e => e.message
  | boot e => e.message
  | resource e => e.message
  | cleanup e => e.message
  | failures fs => Failures.message fs
  | text s => s

/-- The causes that the error itself tells of. -/
def causes : Fault → List String
  | run e => e.causes
  | boot e => e.causes
  | resource e => e.causes
  | cleanup e => e.causes
  | failures _ | text _ => []

def ofCause : Cause → Fault
  | .text m => text m
  | .resource e => resource e

/-- The error right below. -/
def source? : Fault → Option Fault
  | run (.boot e) => some (boot e)
  | run (.resourceFailed _ e) => some (resource e)
  | run (.shutdown fs) => some (failures fs)
  | boot (.start _ e) => some (resource e)
  | resource (.bind _ cause) => some (text cause)
  | resource (.io cause) => some (text cause)
  | cleanup (.failed _ cause) => some (ofCause cause)
  | _ => none

/-- How far an error can be above the last of its sources. -/
def height : Fault → Nat
  | run _ => 3
  | boot _ | cleanup _ => 2
  | resource _ | failures _ => 1
  | text _ => 0

variable {f g : Fault}

/-- What is true of an error and the one right below it. -/
structure Above (f g : Fault) : Prop where
  higher : g.height < f.height
  ends : EndsWith f.message g.message
  causes : f.causes = g.message :: g.causes

theorem above_of_source (source : f.source? = some g) : Above f g := by
  have down {f g : Fault} {front : String} (higher : g.height < f.height) (whole : f.message = front ++ g.message)
      (causes : f.causes = g.message :: g.causes) : Above f g :=
    ⟨higher, ⟨front, whole⟩, causes⟩
  cases f with
  | run e => cases e <;> cases source <;> exact down (by simp [height]) rfl rfl
  | boot e =>
    cases e <;> cases source
    exact down (by simp [height]) rfl rfl
  | resource e => cases e <;> cases source <;> exact down (by simp [height]) rfl rfl
  | cleanup e =>
    cases e with
    | failed _ cause => cases cause <;> cases source <;> exact down (by simp [height, ofCause]) rfl rfl
    | _ => cases source
  | _ => cases source

theorem causes_of_last (last : f.source? = none) : f.causes = [] := by
  cases f with
  | run e => cases e <;> cases last
  | boot e => cases e <;> first | rfl | cases last
  | resource e => cases e <;> first | rfl | cases last
  | cleanup e => cases e <;> first | rfl | cases last
  | _ => rfl

/-- The sources of an error, all the way down. -/
inductive Leads : Fault → List Fault → Prop where
  | last {f : Fault} (last : f.source? = none) : Leads f []
  | next {f g : Fault} {chain : List Fault} (source : f.source? = some g) (below : Leads g chain) :
      Leads f (g :: chain)

/-- By induction on the height. -/
theorem exists_leads (f : Fault) : ∃ chain, Leads f chain := by
  induction height : f.height using Nat.strongRecOn generalizing f with
  | ind n ih =>
    cases source : f.source? with
    | none => exact ⟨[], .last source⟩
    | some g =>
      obtain ⟨chain, below⟩ := ih g.height (height ▸ (above_of_source source).higher) g rfl
      exact ⟨g :: chain, .next source below⟩

namespace Leads

variable {chain chain' : List Fault}

theorem unique (leads : Leads f chain) (leads' : Leads f chain') : chain' = chain := by
  induction leads generalizing chain' with
  | last last =>
    cases leads' with
    | last => rfl
    | next source _ => cases last.symm.trans source
  | next source below ih =>
    cases leads' with
    | last last => cases last.symm.trans source
    | next source' below' =>
      obtain rfl := Option.some.inj (source.symm.trans source')
      rw [ih below']

theorem causes (leads : Leads f chain) : f.causes = chain.map message := by
  induction leads with
  | last last => exact causes_of_last last
  | next source _ ih => rw [(above_of_source source).causes, ih, List.map_cons]

theorem endsWith (leads : Leads f chain) : ∀ g ∈ chain, EndsWith f.message g.message := by
  induction leads with
  | last _ => simp
  | next source _ ih =>
    have ends := (above_of_source source).ends
    rw [List.forall_mem_cons]
    exact ⟨ends, fun _ mem => ends.trans (ih _ mem)⟩

theorem pairwise_endsWith (leads : Leads f chain) :
    (f :: chain).Pairwise fun upper lower => EndsWith upper.message lower.message := by
  induction leads with
  | last _ => simp
  | next source below ih => exact List.pairwise_cons.2 ⟨(next source below).endsWith, ih⟩

end Leads

/-- The sources of an error are finitely many, `causes` are their messages, and each message is the end of all those
above it. -/
def Tells (f : Fault) (causes : List String) : Prop :=
  ∃ chain, (∀ chain', Leads f chain' ↔ chain' = chain) ∧ causes = chain.map message ∧
    (f :: chain).Pairwise fun upper lower => EndsWith upper.message lower.message

theorem tells (f : Fault) : Tells f f.causes := by
  obtain ⟨chain, leads⟩ := exists_leads f
  refine ⟨chain, fun chain' => ⟨leads.unique, ?_⟩, leads.causes, leads.pairwise_endsWith⟩
  rintro rfl
  exact leads

end Fault

/-! ## Failures -/

theorem intercalate_cons_eq (s t : String) (l : List String) :
    s.intercalate (t :: l) = t ++ String.join (l.map (s ++ ·)) := by
  induction l generalizing t with
  | nil => simp
  | cons u l ih =>
    rw [String.intercalate_cons_cons, ih, List.map_cons, String.join_cons]
    simp only [String.append_assoc]

/-- How many failures there are, and then each of them. -/
theorem Failures.message_eq (fs : Failures) : Failures.message fs =
    toString fs.length ++ " shutdown action(s) failed" ++
      String.join (fs.mapIdx fun i f => (if i = 0 then ": " else "; ") ++ f.message) := by
  cases fs with
  | nil => rfl
  | cons f fs =>
    have rest : (fs.mapIdx fun i g => (if i + 1 = 0 then ": " else "; ") ++ g.message) =
        (fs.map CleanupError.message).map ("; " ++ ·) :=
      List.ext_getElem (by simp) fun i _ _ => by simp
    rw [Failures.message, List.map_cons, intercalate_cons_eq, List.mapIdx_cons, rest, String.join_cons]
    simp only [String.append_assoc]
    rfl

/-- Nothing that is below an error is missing from its message, nor any failure of a shutdown. -/
theorem messages_keep_every_cause (e : RunError) :
    (Fault.run e).Tells e.causes ∧ (CommandLine.lastLine (.error e)).error = some e.message ∧
      ∀ fs, e = .shutdown fs →
        e.message = "shutdown incomplete: " ++ toString fs.length ++ " shutdown action(s) failed" ++
          String.join (fs.mapIdx fun i f => (if i = 0 then ": " else "; ") ++ f.message) ∧
        ∀ f ∈ fs, (Fault.cleanup f).Tells f.causes := by
  have logged : (CommandLine.lastLine (.error e)).error = some e.message := rfl
  refine ⟨(Fault.run e).tells, logged, ?_⟩
  rintro fs rfl
  refine ⟨?_, fun f _ => (Fault.cleanup f).tells⟩
  have whole : (RunError.shutdown fs).message = "shutdown incomplete: " ++ Failures.message fs := rfl
  rw [whole, Failures.message_eq, String.append_assoc, String.append_assoc, String.append_assoc]

/-- A failure among others, with an address that was taken below it. -/
theorem message_keeps_an_address_in_use :
    (Fault.cleanup (.failed "http" (.resource (.bind "0.0.0.0:80" "in use")))).Tells
      ["failed to bind 0.0.0.0:80: in use", "in use"] :=
  ((messages_keep_every_cause
    (.shutdown [.timedOut "cache", .failed "http" (.resource (.bind "0.0.0.0:80" "in use"))])).2.2 _ rfl).2 _ (by simp)

example : (RunError.shutdown [.failed "db" (.text "x"), .timedOut "cache"]).message =
    "shutdown incomplete: 2 shutdown action(s) failed: shutdown action `db` failed: x; " ++
      "shutdown action `cache` timed out" := by
  decide

end ServiceHost.Lifecycle
