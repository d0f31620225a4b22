import PageScript.Host
import PageScript.World

/-!
# The simulated host

A world is a host: requests go to its document, and waiting moves its clock.
-/
namespace PageScript

namespace World

def answer : (r : Request) → World → Except Fault r.Reply × World
  | .query selector, w => ((w.document.selectFirst selector).map (·.map Node.number), w)
  | .queryAll selector, w => ((w.document.selectAll selector).map (·.map Node.number), w)
  | .activate node, w => w.activate node
  | .setValue node text, w => w.setValue node text
  | .value node, w => (w.document.value node, w)
  | .classNames node, w => (w.document.classNames node, w)
  | .elementsByTag node tag, w => (w.document.elementsByTag node tag, w)
  | .children node, w => (w.document.children node, w)
  | .parent node, w => (w.document.parent node, w)
  | .text node, w => (w.document.text node, w)
  | .attr node name, w => (w.document.attr node name, w)
  | .keyDown code, w => w.keyDown code
  | .clearLocalStorage, w => (.ok (), w.clearLocalStorage)

def host : Host World where
  call := answer
  observe w := (.live w.observe.1, w.observe.2)
  unobserve
    | .live id, w => w.unobserve id
    | .closed, w => w
  nextChange
    | .live id, deadline, w => w.nextChange id deadline
    | .closed, deadline, w => (false, w.sleepUntil deadline)
  changesAhead
    | .live id, w => w.changesAhead id
    | .closed, _ => 0
  now w := w.now
  ahead ms w := w.ahead ms
  sleepUntil deadline w := w.sleepUntil deadline
  stopwatch w := if w.timed then w.now else 0

end World

end PageScript
