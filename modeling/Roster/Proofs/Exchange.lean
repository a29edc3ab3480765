import Roster.Proofs.Fleet.Traffic
import Roster.Proofs.Node.Refusal
import Roster.Proofs.Store.Remembered

/-!
What nodes exchange over the wire. Every text that is written for a value is parsed as that value,
so a peer that pulls from a node, or to which a node pushes, gets just what the node held.
-/

namespace Roster

open Json (Form)

namespace Node

/-- A text that is written for an entry and sent to a node is dealt with as that entry. -/
theorem respond_of_writes {entry : Entry} {text : String} (written : Entry.form.Writes entry text)
    (node : Node) (resolver : Resolver) (now : Millis) (requester : Address) :
    node.respond resolver now requester (offerRequest entriesTarget text.toUTF8) =
      if Api.bodyLimit < text.toUTF8.size then node.unchanged (.plain .payloadTooLarge)
      else (node.acceptOffer entry requester).map (Api.written .ok) := by
  have content :=
    Api.readBody_of_writes Entry.faithful_form "POST" entriesTarget written
  have leads : Api.routeOf? (offerRequest entriesTarget text.toUTF8) = some .entries := by
    simp [Api.routeOf?, offerRequest, ofTarget?_entriesTarget, Api.Route.methods,
      Api.Route.decoded?]
  rw [Api.respond_of_routeOf? leads]
  show Api.post node requester (offerRequest entriesTarget text.toUTF8) = _
  unfold Api.post offerRequest
  rw [content]
  -- Too long a text is not looked at, and any other is read as the entry.
  by_cases long : Api.bodyLimit < text.toUTF8.size
  · simp only [long, if_true]
  · simp only [long, if_false]

end Node

end Roster
