import PageScript.Host.Faulty
import PageScript.Main
import PageScript.Proofs.Expansion
import PageScript.Proofs.Recording
import PageScript.Proofs.Abandonment
import PageScript.Proofs.Verdict
import PageScript.Proofs.Success
import PageScript.Proofs.Lifetime
import PageScript.Proofs.Numbering
import PageScript.Proofs.Histories
import PageScript.Proofs.WellFormed
import PageScript.Proofs.Reading
import PageScript.Proofs.Chains
import PageScript.Proofs.Narrowing
import PageScript.Proofs.Timeline
import PageScript.Proofs.Triggering
import PageScript.Proofs.Rendering
import PageScript.Proofs.Tagging
import PageScript.Proofs.Tokens
import PageScript.Proofs.Listening
import PageScript.Proofs.Typing
import PageScript.Proofs.Awaiting
import PageScript.Proofs.Hearing
import PageScript.Proofs.Patience
import PageScript.Proofs.Promptness
import PageScript.Proofs.Strictness
import PageScript.Proofs.Lockstep
import PageScript.Proofs.Pacing
import PageScript.Proofs.Writing
import PageScript.Proofs.Checking
import PageScript.Proofs.Locality
import PageScript.Proofs.Effects
import PageScript.Proofs.Idling
import PageScript.Proofs.Delays
import PageScript.Proofs.Resolving
import PageScript.Proofs.Faithfulness
import PageScript.Proofs.Handles
import PageScript.Proofs.Focus
import PageScript.Proofs.Joining
import PageScript.Proofs.Clearing
import PageScript.Proofs.Representing
