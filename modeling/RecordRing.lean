import RecordRing.Command
import RecordRing.Device.Json
import RecordRing.Inspect
import RecordRing.Main
import RecordRing.Proofs.Stream
import RecordRing.Proofs.Recovery
import RecordRing.Proofs.Reading
import RecordRing.Proofs.Reader
import RecordRing.Proofs.Independence
import RecordRing.Proofs.Replay
import RecordRing.Proofs.Seeking
import RecordRing.Proofs.Addressing
import RecordRing.Proofs.Contents
import RecordRing.Proofs.Denial
import RecordRing.Proofs.Locking
import RecordRing.Proofs.Refusal
import RecordRing.Proofs.Writing
import RecordRing.Proofs.Sequential
import RecordRing.Proofs.Lookahead
import RecordRing.Proofs.Lookup
import RecordRing.Proofs.Abandon
import RecordRing.Proofs.Searching
import RecordRing.Proofs.Moving
import RecordRing.Proofs.Tally
import RecordRing.Proofs.Traversal
import RecordRing.Proofs.Occupancy
import RecordRing.Proofs.Bounds
import RecordRing.Proofs.RoundTrip
