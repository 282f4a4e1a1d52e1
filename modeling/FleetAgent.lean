import FleetAgent.Agent.Activity
import FleetAgent.Agent.Basic
import FleetAgent.Agent.Disable
import FleetAgent.Agent.Gates
import FleetAgent.Agent.Listener
import FleetAgent.Agent.Load
import FleetAgent.Agent.Run
import FleetAgent.Agent.ShutdownSignal
import FleetAgent.Bus.Basic
import FleetAgent.Bus.Exchange
import FleetAgent.Config
import FleetAgent.Controller
import FleetAgent.Effect
import FleetAgent.Endpoint
import FleetAgent.Error
import FleetAgent.Event
import FleetAgent.Log.Record
import FleetAgent.Log.Writer
import FleetAgent.Policy.Backoff
import FleetAgent.Policy.Jitter
import FleetAgent.Policy.Reconnect
import FleetAgent.Proofs.Agent.Accounts
import FleetAgent.Proofs.Agent.Attempts
import FleetAgent.Proofs.Agent.Attendance
import FleetAgent.Proofs.Agent.Audience
import FleetAgent.Proofs.Agent.Disabling
import FleetAgent.Proofs.Agent.Feedback
import FleetAgent.Proofs.Agent.Draining
import FleetAgent.Proofs.Agent.Flush
import FleetAgent.Proofs.Agent.Gates
import FleetAgent.Proofs.Agent.Interference
import FleetAgent.Proofs.Agent.Notices
import FleetAgent.Proofs.Agent.Outlet
import FleetAgent.Proofs.Agent.Readiness
import FleetAgent.Proofs.Agent.Reconnection
import FleetAgent.Proofs.Agent.Recovery
import FleetAgent.Proofs.Agent.Reliance
import FleetAgent.Proofs.Agent.Reporting
import FleetAgent.Proofs.Agent.Sharing
import FleetAgent.Proofs.Agent.Shutdown
import FleetAgent.Proofs.Bus.Journal
import FleetAgent.Proofs.Bus.Log
import FleetAgent.Proofs.Bus.Receivers
import FleetAgent.Proofs.Scheduler.Endings
import FleetAgent.Proofs.Scheduler.Exclusion
import FleetAgent.Proofs.Scheduler.Pace
import FleetAgent.Proofs.Scheduler.Restart
import FleetAgent.Proofs.Scheduler.Senders
import FleetAgent.Proofs.Scheduler.Silence
import FleetAgent.Proofs.Scheduler.Waits
import FleetAgent.Proofs.Session.Chronicle
import FleetAgent.Proofs.Session.Epoch
import FleetAgent.Proofs.Session.Failures
import FleetAgent.Proofs.Session.Numbers
import FleetAgent.Proofs.Session.Record
import FleetAgent.Proofs.Session.Wire
import FleetAgent.Proofs.Simulation.Cadence
import FleetAgent.Proofs.Simulation.Course
import FleetAgent.Proofs.Simulation.Host
import FleetAgent.Proofs.Simulation.Loss
import FleetAgent.Proofs.Simulation.Plan
import FleetAgent.Proofs.Simulation.Punctual
import FleetAgent.Proofs.Subscriber.Fanout
import FleetAgent.Proofs.Wire.Reading
import FleetAgent.Proofs.Wire.Records
import FleetAgent.Proofs.Wire.Writing
import FleetAgent.Registration
import FleetAgent.Rpc.Call
import FleetAgent.Rpc.Certificate
import FleetAgent.Rpc.Channel
import FleetAgent.Rpc.Status
import FleetAgent.Scheduler.Basic
import FleetAgent.Scheduler.Notices
import FleetAgent.Scheduler.Ticker
import FleetAgent.Session.Basic
import FleetAgent.Session.Beat
import FleetAgent.Session.Connect
import FleetAgent.Session.State
import FleetAgent.Session.Status
import FleetAgent.Simulation.Audience
import FleetAgent.Simulation.Basic
import FleetAgent.Simulation.Caller
import FleetAgent.Simulation.Flight
import FleetAgent.Simulation.Host
import FleetAgent.Simulation.Job
import FleetAgent.Simulation.Script
import FleetAgent.Simulation.Start
import FleetAgent.Simulation.Turns
import FleetAgent.Subscriber.Basic
import FleetAgent.Subscriber.Fanout
import FleetAgent.Text.Blank
import FleetAgent.Text.Digits
import FleetAgent.Text.Quoted
import FleetAgent.Time
import FleetAgent.Url.Basic
import FleetAgent.Url.Domain
import FleetAgent.Url.Ipv4
import FleetAgent.Url.Ipv6
import FleetAgent.Url.Percent
import FleetAgent.Url.Punycode
import FleetAgent.Wire.Key
import FleetAgent.Wire.Message
import FleetAgent.Wire.Schema
import FleetAgent.Wire.Value
import FleetAgent.Wire.Varint
